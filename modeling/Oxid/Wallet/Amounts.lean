import Oxid.Numeral
import Oxid.Result

/-!
# Amounts as text

Atomic units, as numbers below 2¹²⁸, are shown in confirmations (`display_atomic_units`) and
labels (`format_atomic_units`) and read from what is typed (`parse_night_amount`), always by
their digits.
-/

namespace Oxid.Wallet
open Foundation Result Text List

/-! ## Formatting -/

def decimalText (n : U128) : String := String.ofList (Nat.toDigits 10 n.val)

def padDigits (digits : List Char) (decimals : ℕ) : List Char :=
  if digits.length ≤ decimals then
    List.replicate (decimals + 1 - digits.length) '0' ++ digits
  else digits

def placePoint (digits : List Char) (decimals : ℕ) : Numeral :=
  let padded := padDigits digits decimals
  let split := padded.length - decimals
  ⟨padded.take split, (padded.drop split).rdropWhile (· == '0')⟩

def displayAtomicUnits (atomicUnits : U128) (decimals : UInt8) : String :=
  if decimals = 0 then decimalText atomicUnits
  else String.ofList (placePoint (Nat.toDigits 10 atomicUnits.val) decimals.toNat).text

/-- `format_atomic_units`: the amount comes as text, and a dash is shown for anything but
digits. -/
def formatAtomicUnits (value : String) (decimals : UInt8) : String :=
  if value.toList = [] ∨ ¬ value.toList.all Char.isDigit then "—"
  else
    let value := value.toList.dropWhile (· == '0')
    let value := if value = [] then ['0'] else value
    if decimals = 0 then String.ofList value
    else String.ofList (placePoint value decimals.toNat).text

section PlacePoint
variable {digits : List Char} {decimals : ℕ}

theorem ofDigitChars_padDigits (digits : List Char) (decimals : ℕ) :
    Nat.ofDigitChars 10 (padDigits digits decimals) 0 = Nat.ofDigitChars 10 digits 0 := by
  rw [padDigits]
  split_ifs
  · rw [ofDigitChars_append_zero, Nat.ofDigitChars_replicate_zero, Nat.mul_zero, Nat.zero_mul,
      Nat.zero_add]
  · rfl

theorem lt_length_padDigits (digits : List Char) (decimals : ℕ) :
    decimals < (padDigits digits decimals).length := by
  rw [padDigits]
  split_ifs with h
  · rw [length_append, length_replicate]
    omega
  · omega

theorem isDigit_of_mem_padDigits (h : ∀ c ∈ digits, c.isDigit) :
    ∀ c ∈ padDigits digits decimals, c.isDigit := by
  intro c hc
  rw [padDigits] at hc
  split_ifs at hc
  · rcases mem_append.mp hc with hc | hc
    · rw [(mem_replicate.mp hc).2]
      rfl
    · exact h c hc
  · exact h c hc

theorem fraction_placePoint (digits : List Char) (decimals : ℕ) :
    (placePoint digits decimals).fraction = ((padDigits digits decimals).drop
      ((padDigits digits decimals).length - decimals)).rdropWhile (· == '0') := rfl

theorem whole_placePoint (digits : List Char) (decimals : ℕ) : (placePoint digits decimals).whole =
      (padDigits digits decimals).take ((padDigits digits decimals).length - decimals) := rfl

theorem exists_fraction_append (digits : List Char) (decimals : ℕ) :
    ∃ k, (placePoint digits decimals).fraction.length + k = decimals ∧
      (placePoint digits decimals).whole ++
        ((placePoint digits decimals).fraction ++ replicate k '0') = padDigits digits decimals := by
  have hlt := lt_length_padDigits digits decimals
  rw [fraction_placePoint, whole_placePoint]
  generalize padDigits digits decimals = padded at hlt
  have hlength : (padded.drop (padded.length - decimals)).length = decimals := by
    rw [length_drop]
    omega
  have hwhole := take_append_drop (padded.length - decimals) padded
  generalize padded.drop (padded.length - decimals) = last at hlength hwhole
  have hsplit : last.rdropWhile (· == '0') ++ last.rtakeWhile (· == '0') = last :=
    rdropWhile_append_rtakeWhile
  have hzeros : last.rtakeWhile (· == '0') = replicate (last.rtakeWhile (· == '0')).length '0' := by
    refine eq_replicate_iff.mpr ⟨rfl, fun c hc => ?_⟩
    simpa using mem_rtakeWhile_imp hc
  refine ⟨(last.rtakeWhile (· == '0')).length, ?_, ?_⟩
  · rw [← length_append, hsplit, hlength]
  · rw [← hzeros, hsplit, hwhole]

theorem value_placePoint (digits : List Char) (decimals : ℕ) :
    (placePoint digits decimals).value * 10 ^ decimals = (Nat.ofDigitChars 10 digits 0 : ℕ) := by
  obtain ⟨k, hk, hdigits⟩ := exists_fraction_append digits decimals
  rw [Numeral.value_mul_pow _ hk, hdigits, ofDigitChars_padDigits]

theorem canonicalDecimal_whole (h : CanonicalDecimal digits) :
    CanonicalDecimal (placePoint digits decimals).whole := by
  have hlt := lt_length_padDigits digits decimals
  rw [whole_placePoint]
  by_cases hshort : digits.length ≤ decimals
  · have hwhole : (padDigits digits decimals).take
        ((padDigits digits decimals).length - decimals) = ['0'] := by
      have hpad : padDigits digits decimals =
          '0' :: (replicate (decimals - digits.length) '0' ++ digits) := by
        rw [padDigits, if_pos hshort, Nat.succ_sub hshort, replicate_succ, cons_append]
      have hcut : (padDigits digits decimals).length - decimals = 1 := by
        rw [padDigits, if_pos hshort, length_append, length_replicate]
        omega
      rw [hcut, hpad, take_succ_cons, take_zero]
    rw [hwhole]
    exact ⟨by simp, by simp, by simp⟩
  · rw [padDigits, if_neg hshort]
    rw [padDigits, if_neg hshort] at hlt
    have hne : digits.take (digits.length - decimals) ≠ [] := by
      intro hnil
      have := congrArg length hnil
      rw [length_take, length_nil] at this
      omega
    refine ⟨hne, ?_, fun c hc => h.digits c (mem_of_mem_take hc)⟩
    rintro ⟨hlong, hhead⟩
    rw [length_take] at hlong
    refine h.leading ⟨by omega, ?_⟩
    rw [← take_append_drop (digits.length - decimals) digits, head?_append_of_ne_nil hne]
    exact hhead

theorem canonical_placePoint (h : CanonicalDecimal digits) :
    (placePoint digits decimals).Canonical where
  whole := canonicalDecimal_whole h
  digits := by
    intro c hc
    exact isDigit_of_mem_padDigits h.digits c (mem_of_mem_drop (( rdropWhile_prefix _ _).subset hc))
  trailing := by
    intro hlast
    have hne : (placePoint digits decimals).fraction ≠ [] := by
      intro hnil
      rw [hnil] at hlast
      cases hlast
    have hzero := rdropWhile_last_not (· == '0') _ hne
    rw [getLast?_eq_some_getLast hne, Option.some.injEq] at hlast
    exact hzero (beq_iff_eq.mpr hlast)

end PlacePoint

def amountNumeral (n : U128) (decimals : UInt8) : Numeral :=
  if decimals = 0 then ⟨Nat.toDigits 10 n.val, []⟩
  else placePoint (Nat.toDigits 10 n.val) decimals.toNat

theorem canonical_amountNumeral (n : U128) (decimals : UInt8) :
    (amountNumeral n decimals).Canonical := by
  rw [amountNumeral]
  split_ifs
  · exact ⟨canonicalDecimal_toDigits n.val, by simp, by simp⟩
  · exact canonical_placePoint (canonicalDecimal_toDigits n.val)

theorem value_amountNumeral (n : U128) (decimals : UInt8) :
    (amountNumeral n decimals).value * 10 ^ decimals.toNat = (n.val : ℚ) := by
  rw [amountNumeral]
  split_ifs with h
  · simp [Numeral.value, h]
  · rw [value_placePoint, Nat.ofDigitChars_ten_toDigits]

theorem displayAtomicUnits_eq (n : U128) (decimals : UInt8) :
    displayAtomicUnits n decimals = String.ofList (amountNumeral n decimals).text := by
  rw [displayAtomicUnits, amountNumeral]
  split_ifs
  · rfl
  · rfl

theorem dropWhile_toDigits (n : ℕ) : (if (Nat.toDigits 10 n).dropWhile (· == '0') = [] then ['0']
      else (Nat.toDigits 10 n).dropWhile (· == '0')) = Nat.toDigits 10 n := by
  by_cases hn : n = 0
  · subst hn
    rfl
  · have hhead := head?_toDigits (Nat.pos_of_ne_zero hn)
    cases hdigits : Nat.toDigits 10 n with
    | nil => exact absurd hdigits Nat.toDigits_ne_nil
    | cons =>
      rw [hdigits, head?_cons, ne_eq, Option.some.injEq] at hhead
      rw [dropWhile_cons_of_neg (by simpa using hhead), if_neg (by simp)]

theorem formatAtomicUnits_eq (n : U128) (decimals : UInt8) :
    formatAtomicUnits (decimalText n) decimals = String.ofList (amountNumeral n decimals).text := by
  have hform : ¬ ((decimalText n).toList = [] ∨ ¬ (decimalText n).toList.all Char.isDigit) := by
    have hcanonical := canonicalDecimal_toDigits n.val
    simp only [decimalText, String.toList_ofList, hcanonical.nonempty, false_or, not_not,
      all_eq_true]
    exact hcanonical.digits
  rw [formatAtomicUnits, if_neg hform]
  simp only [decimalText, String.toList_ofList, dropWhile_toDigits, amountNumeral]
  split_ifs
  · rfl
  · rfl

/-! ## Parsing -/

def parseNightAmount (value : String) (allowZero : Bool) : Except String String := do
  let value := trim value.toList
  rejectIf value.isEmpty "enter a NIGHT amount"
  let parts := value.splitOn '.'
  let whole := parts.head?.getD []
  let fraction := parts[1]?
  rejectIf (parts[2]?.isSome || whole.isEmpty || !whole.all Char.isDigit ||
      fraction.any fun part => !part.all Char.isDigit)
    "NIGHT amount must be a positive decimal number"
  let fraction := fraction.getD []
  rejectIf (6 < fraction.length) "NIGHT supports at most 6 decimal places"
  let paddedFraction := fraction ++ List.replicate (6 - fraction.length) '0'
  let atomic ← okOr (parseU128 (whole ++ paddedFraction)) "NIGHT amount is too large"
  rejectIf (atomic = 0 && !allowZero) "NIGHT amount must be greater than zero"
  return decimalText atomic

variable {cs : List Char}

theorem not_mem_point (h : ∀ c ∈ cs, c.isDigit) : '.' ∉ cs := by
  intro hmem
  exact absurd (h '.' hmem) (by decide)

def typedNumeral (cs : List Char) : Numeral :=
  ⟨(cs.splitOn '.').head?.getD [], (cs.splitOn '.')[1]?.getD []⟩

def malformed (cs : List Char) : Bool :=
  (cs.splitOn '.')[2]?.isSome || (typedNumeral cs).whole.isEmpty ||
    !(typedNumeral cs).whole.all Char.isDigit ||
      (cs.splitOn '.')[1]?.any fun part => !part.all Char.isDigit

theorem written_iff_typedNumeral {x} : x.Written 6 cs ↔
      x = typedNumeral cs ∧ malformed cs = false ∧ (typedNumeral cs).fraction.length ≤ 6 := by
  constructor
  · intro h
    have hwhole := not_mem_point h.whole
    have hempty : x.whole.isEmpty = false := by simpa using h.nonempty
    have hall : x.whole.all Char.isDigit := all_eq_true.mpr h.whole
    have hall' : x.fraction.all Char.isDigit := all_eq_true.mpr h.fraction
    rcases h.text with rfl | ⟨hnil, rfl⟩
    · have hparts : (x.whole ++ '.' :: x.fraction).splitOn '.' = [x.whole, x.fraction] := by
        rw [splitOn_append_cons_self_of_not_mem hwhole,
          splitOn_eq_singleton (not_mem_point h.fraction)]
      simp [typedNumeral, malformed, hparts, hempty, hall, hall', h.short]
    · have hparts : x.whole.splitOn '.' = [x.whole] := splitOn_eq_singleton hwhole
      have hx : x = ⟨x.whole, []⟩ := by rw [← hnil]
      simp [typedNumeral, malformed, hparts, hempty, hall, ← hx, h.short]
  · rintro ⟨rfl, hform, hshort⟩
    have htext : ['.'].intercalate (cs.splitOn '.') = cs := intercalate_splitOn '.'
    simp only [malformed, Bool.or_eq_false_iff, Bool.not_eq_false'] at hform
    obtain ⟨⟨⟨hthird, hempty⟩, hall⟩, hfraction⟩ := hform
    have hne : (typedNumeral cs).whole ≠ [] := by simpa using hempty
    refine ⟨hne, all_eq_true.mp hall, ?_, hshort, ?_⟩
    · intro c hc
      cases hsecond : (cs.splitOn '.')[1]? with
      | none => simp [typedNumeral, hsecond] at hc
      | some =>
        rw [hsecond, Option.any_some, Bool.not_eq_false'] at hfraction
        simp only [typedNumeral, hsecond, Option.getD_some] at hc
        exact all_eq_true.mp hfraction c hc
    · -- There are one or two parts, and with the points between them they are the text.
      match hparts : cs.splitOn '.' with
      | [] => exact absurd hparts (splitOn_ne_nil '.' cs)
      | [whole] =>
        rw [hparts] at htext
        right
        simpa [typedNumeral, hparts] using htext.symm
      | [whole, fraction] =>
        rw [hparts] at htext
        left
        simpa [typedNumeral, hparts] using htext.symm
      | _ :: _ :: _ :: _ =>
        rw [hparts] at hthird
        simp at hthird

theorem parseU128_written {x : Numeral} (h : x.Written 6 cs) {n : U128} :
    parseU128 (x.whole ++ (x.fraction ++ replicate (6 - x.fraction.length) '0')) = some n ↔
      x.value * 10 ^ 6 = (n.val : ℚ) := by
  have hshort := h.short
  have hdigits : ∀ c ∈ x.whole ++ (x.fraction ++ replicate (6 - x.fraction.length) '0'),
      c.isDigit := by
    intro c hc
    simp only [mem_append, mem_replicate] at hc
    rcases hc with hc | hc | ⟨-, rfl⟩
    · exact h.whole c hc
    · exact h.fraction c hc
    · rfl
  rw [parseU128_eq_some_iff (by simp [h.nonempty]) hdigits,
    Numeral.value_mul_pow x (show x.fraction.length + (6 - x.fraction.length) = 6 by omega)]
  exact Nat.cast_inj.symm

theorem parseNightAmount_ok_iff {s : String} {allowZero} {a : String} :
    parseNightAmount s allowZero = .ok a ↔
      ∃ (x : Numeral) (n : U128), x.Written 6 (trim s.toList) ∧ x.value * 10 ^ 6 = (n.val : ℚ) ∧
        (0 < n.val ∨ allowZero) ∧ a = decimalText n := by
  have hzero : ∀ n : U128, (decide (n = 0) && !allowZero) = false ↔ 0 < n.val ∨ allowZero := by
    intro n
    rw [Bool.and_eq_false_iff, decide_eq_false_iff_not, Bool.not_eq_false', Fin.ext_iff,
      Nat.pos_iff_ne_zero]
    rfl
  simp only [parseNightAmount, bind_ok_iff, rejectIf_ok_iff, okOr_ok_iff, exists_const, hzero,
    decide_eq_false_iff_not, Nat.not_lt]
  constructor
  · rintro ⟨-, hform, hshort, n, hparse, hpos, heq⟩
    have hwritten := written_iff_typedNumeral.mpr ⟨rfl, hform, hshort⟩
    cases heq
    exact ⟨_, n, hwritten, (parseU128_written hwritten).mp hparse, hpos, rfl⟩
  · rintro ⟨x, n, hwritten, hvalue, hpos, rfl⟩
    obtain ⟨rfl, hform, hshort⟩ := written_iff_typedNumeral.mp hwritten
    refine ⟨?_, hform, hshort, n, (parseU128_written hwritten).mpr hvalue, hpos, rfl⟩
    rw [isEmpty_eq_false_iff]
    intro hnil
    exact hwritten.nonempty (by rw [hnil]; rfl)

theorem isWhitespace_eq_false_of_isDigit {c} (h : c.isDigit) : isWhitespace c = false := by
  rw [Char.isDigit_iff_toNat] at h
  change 48 ≤ c.toNat ∧ c.toNat ≤ 57 at h
  simp only [isWhitespace, Bool.or_eq_false_iff, Bool.and_eq_false_iff, decide_eq_false_iff_not,
    beq_eq_false_iff_ne]
  omega

theorem trim_eq_self (h : ∀ c ∈ cs, isWhitespace c = false) : trim cs = cs := by
  have hstart : cs.dropWhile isWhitespace = cs := by
    cases cs with
    | nil => rfl
    | cons c => exact dropWhile_cons_of_neg (by simp [h c])
  rw [trim, hstart, rdropWhile_eq_self_iff]
  intro hne
  simp [h _ (getLast_mem hne)]

theorem written_amountNumeral (n : U128) :
    (amountNumeral n 6).Written 6 (trim (amountNumeral n 6).text) := by
  have hcanonical := canonical_amountNumeral n 6
  obtain ⟨k, hk, -⟩ := exists_fraction_append (Nat.toDigits 10 n.val) 6
  have htext : trim (amountNumeral n 6).text = (amountNumeral n 6).text := by
    refine trim_eq_self fun c hc => ?_
    rw [Numeral.text] at hc
    split_ifs at hc
    · exact isWhitespace_eq_false_of_isDigit (hcanonical.whole.digits c hc)
    · rcases mem_append.mp hc with hc | hc
      · exact isWhitespace_eq_false_of_isDigit (hcanonical.whole.digits c hc)
      · rcases mem_cons.mp hc with rfl | hc
        · decide
        · exact isWhitespace_eq_false_of_isDigit (hcanonical.digits c hc)
  refine ⟨hcanonical.whole.nonempty, hcanonical.whole.digits, hcanonical.digits, ?_, ?_⟩
  · change (placePoint (Nat.toDigits 10 n.val) 6).fraction.length ≤ 6
    omega
  · rw [htext, Numeral.text]
    split_ifs with hnil
    · exact .inr ⟨hnil, rfl⟩
    · exact .inl rfl

/-- **The amount typed is the amount sent and the amount shown.**  Both formatters show the
canonical numeral of the amount; the parser reads it back, and accepts exactly the numerals with at
most six decimals in range. -/
theorem amounts_exact :
    (∀ (n : U128) (d : UInt8), ∃ x : Numeral, x.Canonical ∧ x.value * 10 ^ d.toNat = (n.val : ℚ) ∧
      (∀ y : Numeral, y.Canonical → y.value * 10 ^ d.toNat = (n.val : ℚ) → y = x) ∧
        displayAtomicUnits n d = String.ofList x.text ∧
          formatAtomicUnits (decimalText n) d = String.ofList x.text) ∧
    (∀ n : U128, parseNightAmount (formatAtomicUnits (decimalText n) 6) true =
      .ok (decimalText n)) ∧ ∀ (s : String) (z : Bool) (a : String), parseNightAmount s z = .ok a ↔
      ∃ x : Numeral, x.Written 6 (trim s.toList) ∧ x.value * 10 ^ 6 < 2 ^ 128 ∧ (0 < x.value ∨ z) ∧
          ∃ n : U128, (n.val : ℚ) = x.value * 10 ^ 6 ∧ a = decimalText n := by
  refine ⟨fun n d => ?_, fun n => ?_, fun s z a => ?_⟩
  · refine ⟨amountNumeral n d, canonical_amountNumeral n d, value_amountNumeral n d, ?_,
      displayAtomicUnits_eq n d, formatAtomicUnits_eq n d⟩
    intro y hy hvalue
    refine hy.eq_of_value_eq (canonical_amountNumeral n d) ?_
    have hpow : (10 : ℚ) ^ d.toNat ≠ 0 := by positivity
    exact mul_right_cancel₀ hpow (hvalue.trans (value_amountNumeral n d).symm)
  · rw [formatAtomicUnits_eq]
    refine parseNightAmount_ok_iff.mpr ⟨amountNumeral n 6, n, ?_, value_amountNumeral n 6,
      .inr rfl, rfl⟩
    rw [String.toList_ofList]
    exact written_amountNumeral n
  · rw [parseNightAmount_ok_iff]
    refine exists_congr fun x => ?_
    constructor
    · rintro ⟨n, hwritten, hvalue, hpos, ha⟩
      refine ⟨hwritten, ?_, ?_, n, hvalue.symm, ha⟩
      · rw [hvalue]
        exact_mod_cast n.isLt
      · refine hpos.imp_left fun hpos => ?_
        have hscaled : 0 < x.value * 10 ^ 6 := by
          rw [hvalue]
          exact_mod_cast hpos
        exact (mul_pos_iff_of_pos_right (by positivity)).mp hscaled
    · rintro ⟨hwritten, -, hpos, n, hvalue, ha⟩
      refine ⟨n, hwritten, hvalue.symm, hpos.imp_left fun hpos => ?_, ha⟩
      have hscaled : (0 : ℚ) < n.val := by
        rw [hvalue]
        positivity
      exact_mod_cast hscaled

example : parseNightAmount " 12.345 " false = .ok "12345000" := by decide +kernel

example : parseNightAmount "1.0000001" true =
    .error "NIGHT supports at most 6 decimal places" := by decide +kernel

end Oxid.Wallet
