import Mathlib.Data.List.Basic
import Oxid.Wire

/-!
# SHA-256

The hash function of FIPS 180-4 on lists of bytes, such that a digest can be computed in a
proof.
-/

namespace Oxid.Sha256
open Wire

abbrev Word := BitVec 32

/-- The eight words that are carried from block to block. -/
structure State where
  (a b c d e f g h : Word)

def initial : State :=
  ⟨0x6a09e667, 0xbb67ae85, 0x3c6ef372, 0xa54ff53a, 0x510e527f, 0x9b05688c, 0x1f83d9ab, 0x5be0cd19⟩

def roundConstants : List Word :=
  [0x428a2f98, 0x71374491, 0xb5c0fbcf, 0xe9b5dba5, 0x3956c25b, 0x59f111f1, 0x923f82a4, 0xab1c5ed5,
    0xd807aa98, 0x12835b01, 0x243185be, 0x550c7dc3, 0x72be5d74, 0x80deb1fe, 0x9bdc06a7, 0xc19bf174,
    0xe49b69c1, 0xefbe4786, 0x0fc19dc6, 0x240ca1cc, 0x2de92c6f, 0x4a7484aa, 0x5cb0a9dc, 0x76f988da,
    0x983e5152, 0xa831c66d, 0xb00327c8, 0xbf597fc7, 0xc6e00bf3, 0xd5a79147, 0x06ca6351, 0x14292967,
    0x27b70a85, 0x2e1b2138, 0x4d2c6dfc, 0x53380d13, 0x650a7354, 0x766a0abb, 0x81c2c92e, 0x92722c85,
    0xa2bfe8a1, 0xa81a664b, 0xc24b8b70, 0xc76c51a3, 0xd192e819, 0xd6990624, 0xf40e3585, 0x106aa070,
    0x19a4c116, 0x1e376c08, 0x2748774c, 0x34b0bcb5, 0x391c0cb3, 0x4ed8aa4a, 0x5b9cca4f, 0x682e6ff3,
    0x748f82ee, 0x78a5636f, 0x84c87814, 0x8cc70208, 0x90befffa, 0xa4506ceb, 0xbef9a3f7, 0xc67178f2]

def wordsOfBytes : ℕ → List UInt8 → List Word
  | 0, _ => []
  | n + 1, bytes => BitVec.ofNat 32 (ofBytesBE (bytes.take 4)) :: wordsOfBytes n (bytes.drop 4)

/-- A message filled up to whole blocks of 64 bytes. -/
def pad (message : List UInt8) : List UInt8 :=
  message ++ 0x80 :: List.replicate ((119 - message.length % 64) % 64) 0 ++
    toBytesBE 8 (8 * message.length)

/-- The next word of the schedule, from the sixteen before it. -/
def nextWord (window : List Word) : Word :=
  let x := window.getD 1 0
  let y := window.getD 14 0
  window.getD 0 0 + (x.rotateRight 7 ^^^ x.rotateRight 18 ^^^ x >>> 3) + window.getD 9 0 +
    (y.rotateRight 17 ^^^ y.rotateRight 19 ^^^ y >>> 10)

def schedule : ℕ → List Word → List Word
  | 0, _ => []
  | n + 1, window => window.headD 0 :: schedule n (window.tail ++ [nextWord window])

def round (s : State) (constant word : Word) : State :=
  let s1 := s.e.rotateRight 6 ^^^ s.e.rotateRight 11 ^^^ s.e.rotateRight 25
  let choice := (s.e &&& s.f) ^^^ (~~~s.e &&& s.g)
  let t1 := s.h + s1 + choice + constant + word
  let s0 := s.a.rotateRight 2 ^^^ s.a.rotateRight 13 ^^^ s.a.rotateRight 22
  let majority := (s.a &&& s.b) ^^^ (s.a &&& s.c) ^^^ (s.b &&& s.c)
  ⟨t1 + (s0 + majority), s.a, s.b, s.c, s.d + t1, s.e, s.f, s.g⟩

def rounds : List Word → List Word → State → State
  | constant :: constants, word :: words, s => rounds constants words (round s constant word)
  | _, _, s => s

def compress (s : State) (block : List UInt8) : State :=
  let t := rounds roundConstants (schedule 64 (wordsOfBytes 16 block)) s
  ⟨s.a + t.a, s.b + t.b, s.c + t.c, s.d + t.d, s.e + t.e, s.f + t.f, s.g + t.g, s.h + t.h⟩

def compressBlocks : ℕ → State → List UInt8 → State
  | 0, s, _ => s
  | n + 1, s, bytes => compressBlocks n (compress s (bytes.take 64)) (bytes.drop 64)

def State.bytes (s : State) : List UInt8 :=
  [s.a, s.b, s.c, s.d, s.e, s.f, s.g, s.h].flatMap fun word => toBytesBE 4 word.toNat

def digest (message : List UInt8) : List UInt8 :=
  let padded := pad message
  (compressBlocks (padded.length / 64) initial padded).bytes

@[simp] theorem length_digest (message : List UInt8) : (digest message).length = 32 := by
  simp [digest, State.bytes]

/-- The example of the standard: the three letters "abc". -/
example : digest [0x61, 0x62, 0x63] =
    [0xba, 0x78, 0x16, 0xbf, 0x8f, 0x01, 0xcf, 0xea, 0x41, 0x41, 0x40, 0xde, 0x5d, 0xae, 0x22, 0x23,
      0xb0, 0x03, 0x61, 0xa3, 0x96, 0x17, 0x7a, 0x9c, 0xb4, 0x10, 0xff, 0x61, 0xf2, 0x00, 0x15,
      0xad] := by
  decide +kernel

end Oxid.Sha256
