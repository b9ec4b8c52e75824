/-!
# Digests

The SHA-256 digest of a sequence of bytes: the message is padded to blocks of 64
bytes, and each block is compressed into a state of eight words.

## Main definitions

* `Digest` — thirty-two bytes.
* `padded` — a message with its padding.
* `sha256` — the digest of a message.
* `hexByte` — a byte as two hexadecimal digits.
-/

namespace Failover

/-- Thirty-two bytes. -/
abbrev Digest := Vector UInt8 32

namespace Digest

/-! ### Padding -/

/-- The last `n` bytes of a number, the most significant first. -/
def bigEndian (n value : Nat) : List UInt8 :=
  (List.range n).reverse.map fun i => UInt8.ofNat (value >>> (8 * i) % 256)

/-- A message with its padding: one set bit, clear bits up to eight bytes short
of a block, and the length of the message in bits. -/
def padded (message : List UInt8) : List UInt8 :=
  message ++ [0x80] ++ List.replicate ((119 - message.length % 64) % 64) 0 ++
    bigEndian 8 (message.length * 8)

/-! ### Compression -/

/-- The words that are added in the rounds. -/
def roundWords : Array UInt32 :=
  #[0x428a2f98, 0x71374491, 0xb5c0fbcf, 0xe9b5dba5, 0x3956c25b, 0x59f111f1, 0x923f82a4,
    0xab1c5ed5, 0xd807aa98, 0x12835b01, 0x243185be, 0x550c7dc3, 0x72be5d74, 0x80deb1fe,
    0x9bdc06a7, 0xc19bf174, 0xe49b69c1, 0xefbe4786, 0x0fc19dc6, 0x240ca1cc, 0x2de92c6f,
    0x4a7484aa, 0x5cb0a9dc, 0x76f988da, 0x983e5152, 0xa831c66d, 0xb00327c8, 0xbf597fc7,
    0xc6e00bf3, 0xd5a79147, 0x06ca6351, 0x14292967, 0x27b70a85, 0x2e1b2138, 0x4d2c6dfc,
    0x53380d13, 0x650a7354, 0x766a0abb, 0x81c2c92e, 0x92722c85, 0xa2bfe8a1, 0xa81a664b,
    0xc24b8b70, 0xc76c51a3, 0xd192e819, 0xd6990624, 0xf40e3585, 0x106aa070, 0x19a4c116,
    0x1e376c08, 0x2748774c, 0x34b0bcb5, 0x391c0cb3, 0x4ed8aa4a, 0x5b9cca4f, 0x682e6ff3,
    0x748f82ee, 0x78a5636f, 0x84c87814, 0x8cc70208, 0x90befffa, 0xa4506ceb, 0xbef9a3f7,
    0xc67178f2]

/-- The eight words of the compression. -/
structure State where
  /-- The first word. -/
  a : UInt32
  /-- The second word. -/
  b : UInt32
  /-- The third word. -/
  c : UInt32
  /-- The fourth word. -/
  d : UInt32
  /-- The fifth word. -/
  e : UInt32
  /-- The sixth word. -/
  f : UInt32
  /-- The seventh word. -/
  g : UInt32
  /-- The eighth word. -/
  h : UInt32

/-- The state before the first block. -/
def State.start : State :=
  ⟨0x6a09e667, 0xbb67ae85, 0x3c6ef372, 0xa54ff53a, 0x510e527f, 0x9b05688c, 0x1f83d9ab,
    0x5be0cd19⟩

/-- The words of a state, in order. -/
def State.words (s : State) : Array UInt32 := #[s.a, s.b, s.c, s.d, s.e, s.f, s.g, s.h]

/-- The word-wise sum of two states. -/
def State.add (s t : State) : State :=
  ⟨s.a + t.a, s.b + t.b, s.c + t.c, s.d + t.d, s.e + t.e, s.f + t.f, s.g + t.g, s.h + t.h⟩

/-- A word turned right by `n` bits, `n` being less than 32. -/
def rotateRight (w n : UInt32) : UInt32 := (w >>> n) ||| (w <<< (32 - n))

/-- The word of a message that starts at byte `i`. -/
def wordAt (message : Array UInt8) (i : Nat) : UInt32 :=
  let byte (j : Nat) : UInt32 := (message.getD (i + j) 0).toUInt32
  (byte 0 <<< 24) ||| (byte 1 <<< 16) ||| (byte 2 <<< 8) ||| byte 3

/-- Extend the words of a block by the one for round `i`. -/
def extend (ws : Array UInt32) (i : Nat) : Array UInt32 :=
  let w₁₅ := ws.getD (i - 15) 0
  let w₂ := ws.getD (i - 2) 0
  let s₀ := rotateRight w₁₅ 7 ^^^ rotateRight w₁₅ 18 ^^^ (w₁₅ >>> 3)
  let s₁ := rotateRight w₂ 17 ^^^ rotateRight w₂ 19 ^^^ (w₂ >>> 10)
  ws.push (ws.getD (i - 16) 0 + s₀ + ws.getD (i - 7) 0 + s₁)

/-- The words of the sixty-four rounds for the block that starts at byte `i`. -/
def schedule (message : Array UInt8) (i : Nat) : Array UInt32 :=
  let first := (Array.range 16).map fun j => wordAt message (i + 4 * j)
  (List.range' 16 48).foldl extend first

/-- One round. -/
def round (ws : Array UInt32) (s : State) (i : Nat) : State :=
  let s₁ := rotateRight s.e 6 ^^^ rotateRight s.e 11 ^^^ rotateRight s.e 25
  let choice := (s.e &&& s.f) ^^^ (~~~s.e &&& s.g)
  let t₁ := s.h + s₁ + choice + roundWords.getD i 0 + ws.getD i 0
  let s₀ := rotateRight s.a 2 ^^^ rotateRight s.a 13 ^^^ rotateRight s.a 22
  let majority := (s.a &&& s.b) ^^^ (s.a &&& s.c) ^^^ (s.b &&& s.c)
  ⟨t₁ + (s₀ + majority), s.a, s.b, s.c, s.d + t₁, s.e, s.f, s.g⟩

/-- Compress the block that starts at byte `i` into a state. -/
def compress (message : Array UInt8) (s : State) (i : Nat) : State :=
  s.add ((List.range 64).foldl (round (schedule message i)) s)

/-- The SHA-256 digest of a message. -/
def sha256 (message : List UInt8) : Digest :=
  let bytes := (padded message).toArray
  let final := (List.range (bytes.size / 64)).foldl
    (fun s block => compress bytes s (64 * block)) State.start
  Vector.ofFn fun i =>
    ((final.words.getD (i.val / 4) 0) >>> UInt32.ofNat (24 - 8 * (i.val % 4))).toUInt8

/-! ### Hexadecimal digits -/

/-- The hexadecimal digit of a number below sixteen. -/
def hexDigit (n : Nat) : Char := "0123456789abcdef".toList.getD n '0'

/-- A byte as two hexadecimal digits. -/
def hexByte (byte : UInt8) : List Char := [hexDigit (byte.toNat / 16), hexDigit (byte.toNat % 16)]

end Digest

end Failover
