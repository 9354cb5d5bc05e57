import Mathlib.Data.Nat.Notation
import Mathlib.Data.List.Induction
import Mathlib.Tactic.Ring

/-!
# Byte formats

A format writes a value, and reads it off the front of the input again.  `Reads` says when a
reader returns a value and what it leaves, as an equivalence, so it gives both directions.
-/

namespace Oxid.Wire

/-- The last `k` digits of `n` to the base 256, most significant first. -/
def toBytesBE : ℕ → ℕ → List UInt8
  | 0, _ => []
  | k + 1, n => toBytesBE k (n / 256) ++ [UInt8.ofNat n]

def ofBytesBE (bs : List UInt8) : ℕ := bs.foldl (fun n b => n * 256 + b.toNat) 0

@[simp] theorem length_toBytesBE (k n : ℕ) : (toBytesBE k n).length = k := by
  induction k generalizing n with
  | zero => rfl
  | succ k ih => simp [toBytesBE, ih]

@[simp] theorem ofBytesBE_concat (bs : List UInt8) (b : UInt8) :
    ofBytesBE (bs ++ [b]) = ofBytesBE bs * 256 + b.toNat := by
  simp [ofBytesBE]

variable {n : ℕ}

theorem ofBytesBE_toBytesBE {k} (h : n < 256 ^ k) : ofBytesBE (toBytesBE k n) = n := by
  induction k generalizing n with
  | zero =>
    rw [pow_zero] at h
    have : n = 0 := by omega
    rw [this]
    rfl
  | succ k ih =>
    rw [pow_succ] at h
    rw [toBytesBE, ofBytesBE_concat, ih (by omega), UInt8.toNat_ofNat']
    omega

theorem toBytesBE_injective {k m} (hm : m < 256 ^ k) (hn : n < 256 ^ k)
    (h : toBytesBE k m = toBytesBE k n) : m = n := by
  rw [← ofBytesBE_toBytesBE hm, h, ofBytesBE_toBytesBE hn]

/-- Items of one width can be told apart in a row. -/
theorem eq_of_flatMap_eq {α : Type} {f : α → List UInt8} {l l' : List α} (width : ℕ)
    (hwidth : ∀ a, (f a).length = width + 1)
    (hinj : ∀ a ∈ l, ∀ b ∈ l', f a = f b → a = b) (h : l.flatMap f = l'.flatMap f) : l = l' := by
  have hne : ∀ a, f a ≠ [] := fun a hnil => by simpa [hnil] using hwidth a
  induction l generalizing l' with
  | nil =>
    cases l' with
    | nil => rfl
    | cons b => simp [hne] at h
  | cons a l ih =>
    cases l' with
    | nil => simp [hne] at h
    | cons b l' =>
      rw [List.flatMap_cons, List.flatMap_cons] at h
      obtain ⟨hab, hrest⟩ := List.append_inj h ((hwidth a).trans (hwidth b).symm)
      rw [hinj a (by simp) b (by simp) hab, ih (fun a ha b hb => hinj a (by simp [ha]) b
        (by simp [hb])) hrest]

theorem ofBytesBE_lt (bs : List UInt8) : ofBytesBE bs < 256 ^ bs.length := by
  induction bs using List.reverseRecOn with
  | nil => simp [ofBytesBE]
  | append_singleton _ b =>
    have hb := b.toNat_lt
    rw [ofBytesBE_concat, List.length_append, List.length_singleton, pow_succ]
    omega

theorem toBytesBE_ofBytesBE (bs : List UInt8) : toBytesBE bs.length (ofBytesBE bs) = bs := by
  induction bs using List.reverseRecOn with
  | nil => rfl
  | append_singleton bs b ih =>
    have hb := b.toNat_lt
    have hdiv : (ofBytesBE bs * 256 + b.toNat) / 256 = ofBytesBE bs := by omega
    have hbyte : UInt8.ofNat (ofBytesBE bs * 256 + b.toNat) = b := by
      apply UInt8.toNat_inj.mp
      rw [UInt8.toNat_ofNat']
      omega
    rw [List.length_append, List.length_singleton, toBytesBE, ofBytesBE_concat, hdiv, ih, hbyte]

def utf8Bytes (s : String) : List UInt8 := s.toByteArray.data.toList

def ofUtf8Bytes (bs : List UInt8) : Option String := String.fromUTF8? bs.toByteArray

variable {bs : List UInt8}

theorem ofUtf8Bytes_eq_some_iff {s} : ofUtf8Bytes bs = some s ↔ bs = utf8Bytes s := by
  have hdata : bs = utf8Bytes s ↔ bs.toByteArray = s.toByteArray := by
    rw [utf8Bytes, ByteArray.ext_iff, List.data_toByteArray]
    constructor
    · rintro rfl
      simp
    · intro h
      rw [← h]
  rw [hdata, ofUtf8Bytes, String.fromUTF8?]
  split_ifs with hvalid
  · rw [Option.some.injEq, ← String.toByteArray_inj]
    rfl
  · simp only [false_iff]
    intro h
    exact hvalid (h ▸ s.isValidUTF8)

theorem length_utf8Bytes_le (s : String) : (utf8Bytes s).length ≤ 4 * s.toList.length := by
  have key : ∀ cs : List Char, cs.utf8Encode.data.toList.length ≤ 4 * cs.length := by
    intro cs
    induction cs with
    | nil => simp
    | cons c =>
      have hc := c.utf8Size_le_four
      rw [List.utf8Encode_cons, List.utf8Encode_singleton]
      simp only [ByteArray.toList_data_append, List.length_append, List.toList_data_toByteArray,
        String.length_utf8EncodeChar, List.length_cons]
      omega
  have := key s.toList
  rwa [String.utf8Encode_toList] at this

/-- Consume a prefix of the input and return a value, or fail. -/
abbrev Reader (ε α : Type) := StateT (List UInt8) (Except ε) α

/-- The reader returns `a` on this input and leaves `rest`. -/
def Reads {ε α : Type} (p : Reader ε α) (input : List UInt8) (a : α) (rest : List UInt8) : Prop :=
  p.run input = .ok (a, rest)

section Rules
variable {ε α β : Type} {input rest : List UInt8}

theorem reads_bind {p} {f : α → Reader ε β} {b : β} :
    Reads (p >>= f) input b rest ↔ ∃ a mid, Reads p input a mid ∧ Reads (f a) mid b rest := by
  rw [Reads, StateT.run_bind]
  cases h : p.run input with
  | error => simp [Reads, h, bind, Except.bind]
  | ok r =>
    obtain ⟨a, mid⟩ := r
    simp [Reads, h, bind, Except.bind]

@[simp] theorem reads_pure {a b} :
    Reads (pure a : Reader ε α) input b rest ↔ a = b ∧ input = rest := by
  rw [Reads, StateT.run_pure]
  simp [pure, Except.pure]

@[simp] theorem reads_throw {e a} : ¬ Reads (throw e : Reader ε α) input a rest := by
  simp [Reads, throw, throwThe, MonadExceptOf.throw, StateT.run, StateT.lift, bind, Except.bind]

@[simp] theorem reads_lift {x : Except ε α} {a : α} :
    Reads (liftM x : Reader ε α) input a rest ↔ x = .ok a ∧ input = rest := by
  cases x with
  | error => simp [Reads, liftM, monadLift, MonadLift.monadLift, StateT.lift, StateT.run, bind,
      Except.bind]
  | ok => simp [Reads, liftM, monadLift, MonadLift.monadLift, StateT.lift, StateT.run, bind,
      Except.bind, pure, Except.pure]

/-- Take the next `n` bytes, failing with `short` when there are fewer. -/
def takeBytes (short : ε) (n : ℕ) : Reader ε (List UInt8) := fun input =>
  if n ≤ input.length then .ok (input.take n, input.drop n) else .error short

@[simp] theorem reads_takeBytes {short : ε} :
    Reads (takeBytes short n) input bs rest ↔ bs.length = n ∧ input = bs ++ rest := by
  simp only [Reads, takeBytes, StateT.run]
  constructor
  · intro h
    split_ifs at h with hle
    obtain ⟨rfl, rfl⟩ := Prod.mk.inj (Except.ok.inj h)
    exact ⟨by simp [hle], (List.take_append_drop n input).symm⟩
  · rintro ⟨rfl, rfl⟩
    simp

theorem reads_digits {short : ε} {k : ℕ} {ofNat : ℕ → α} {toNat : α → ℕ} {a : α}
    (hof : ∀ a, ofNat (toNat a) = a) (hto : ∀ n < 256 ^ k, toNat (ofNat n) = n)
    (hlt : ∀ a, toNat a < 256 ^ k) :
    Reads (takeBytes short k >>= fun raw => pure (ofNat (ofBytesBE raw))) input a rest ↔
      input = toBytesBE k (toNat a) ++ rest := by
  simp only [reads_bind, reads_takeBytes, reads_pure]
  constructor
  · rintro ⟨bs, mid, ⟨rfl, rfl⟩, rfl, rfl⟩
    rw [hto _ (ofBytesBE_lt bs), toBytesBE_ofBytesBE]
  · intro hinput
    refine ⟨toBytesBE k (toNat a), rest, ⟨length_toBytesBE k _, hinput⟩, ?_, rfl⟩
    rw [ofBytesBE_toBytesBE (hlt a), hof]

/-- The reader takes off exactly what the writer puts on. -/
def Inverts (p : Reader ε α) (put : α → Except ε (List UInt8)) : Prop :=
  ∀ input a rest, Reads p input a rest ↔ ∃ bs, put a = .ok bs ∧ input = bs ++ rest

end Rules

section Slices
variable {bs field rest : List UInt8} {start stop : ℕ}

def slice (bs : List UInt8) (start stop : ℕ) : List UInt8 := (bs.drop start).take (stop - start)

def numberAt (bs : List UInt8) (start stop : ℕ) : ℕ := ofBytesBE (slice bs start stop)

theorem length_slice (h : stop ≤ bs.length) : (slice bs start stop).length = stop - start := by
  rw [slice, List.length_take, List.length_drop]
  omega

theorem drop_of_slice (h : slice bs start stop = field) (hle : start ≤ stop) :
    bs.drop start = field ++ bs.drop stop := by
  have hstop : bs.drop stop = (bs.drop start).drop (stop - start) := by
    rw [List.drop_drop, Nat.add_sub_cancel' hle]
  rw [← h, slice, hstop, List.take_append_drop]

theorem slice_of_drop (h : bs.drop start = field ++ rest) (hstop : start + field.length = stop) :
    slice bs start stop = field ∧ bs.drop stop = rest := by
  have hlength : stop - start = field.length := by omega
  refine ⟨?_, ?_⟩
  · rw [slice, h, hlength, List.take_left]
  · rw [← hstop, ← List.drop_drop, h, List.drop_left]

theorem numberAt_of_drop {k} (h : bs.drop start = toBytesBE k n ++ rest) (hstop : start + k = stop)
    (hn : n < 256 ^ k) : numberAt bs start stop = n ∧ bs.drop stop = rest := by
  obtain ⟨hslice, hdrop⟩ := slice_of_drop h ((length_toBytesBE k n).symm ▸ hstop)
  exact ⟨by rw [numberAt, hslice, ofBytesBE_toBytesBE hn], hdrop⟩

theorem drop_of_numberAt {k} (h : numberAt bs start stop = n) (hstop : start + k = stop)
    (hlength : stop ≤ bs.length) : bs.drop start = toBytesBE k n ++ bs.drop stop := by
  have hk : (slice bs start stop).length = k := by
    rw [length_slice hlength]
    omega
  have hslice : slice bs start stop = toBytesBE k n := by
    rw [← h, numberAt, ← hk, toBytesBE_ofBytesBE]
  exact drop_of_slice hslice (by omega)

end Slices

/-! ## Arrays of known length -/

def toVector? (n : ℕ) (bs : List UInt8) : Option (Vector UInt8 n) :=
  if h : bs.length = n then some ⟨bs.toArray, by simp [h]⟩ else none

theorem toVector?_eq_some_iff {v} : toVector? n bs = some v ↔ v.toList = bs := by
  rw [toVector?]
  constructor
  · intro h
    split_ifs at h
    cases h
    rfl
  · intro h
    subst h
    rw [dif_pos (by simp)]
    rfl

end Oxid.Wire
