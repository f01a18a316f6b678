import RouterGate.Digest.Padding
/-!
The SHA-256 digest.
-/
namespace RouterGate.Digest.Sha256

structure State where
  a : UInt32
  b : UInt32
  c : UInt32
  d : UInt32
  e : UInt32
  f : UInt32
  g : UInt32
  h : UInt32

def initial : State :=
  ⟨0x6a09e667, 0xbb67ae85, 0x3c6ef372, 0xa54ff53a, 0x510e527f, 0x9b05688c, 0x1f83d9ab, 0x5be0cd19⟩

def constants : List UInt32 := [
  0x428a2f98, 0x71374491, 0xb5c0fbcf, 0xe9b5dba5, 0x3956c25b, 0x59f111f1, 0x923f82a4, 0xab1c5ed5,
  0xd807aa98, 0x12835b01, 0x243185be, 0x550c7dc3, 0x72be5d74, 0x80deb1fe, 0x9bdc06a7, 0xc19bf174,
  0xe49b69c1, 0xefbe4786, 0x0fc19dc6, 0x240ca1cc, 0x2de92c6f, 0x4a7484aa, 0x5cb0a9dc, 0x76f988da,
  0x983e5152, 0xa831c66d, 0xb00327c8, 0xbf597fc7, 0xc6e00bf3, 0xd5a79147, 0x06ca6351, 0x14292967,
  0x27b70a85, 0x2e1b2138, 0x4d2c6dfc, 0x53380d13, 0x650a7354, 0x766a0abb, 0x81c2c92e, 0x92722c85,
  0xa2bfe8a1, 0xa81a664b, 0xc24b8b70, 0xc76c51a3, 0xd192e819, 0xd6990624, 0xf40e3585, 0x106aa070,
  0x19a4c116, 0x1e376c08, 0x2748774c, 0x34b0bcb5, 0x391c0cb3, 0x4ed8aa4a, 0x5b9cca4f, 0x682e6ff3,
  0x748f82ee, 0x78a5636f, 0x84c87814, 0x8cc70208, 0x90befffa, 0xa4506ceb, 0xbef9a3f7, 0xc67178f2]

def rotateRight (word bits : UInt32) : UInt32 :=
  rotateLeft word (32 - bits)

def nextWord (latest : List UInt32) : UInt32 :=
  let near := latest.getD 1 0
  let far := latest.getD 14 0
  let nearMix := rotateRight near 17 ^^^ rotateRight near 19 ^^^ (near >>> 10)
  let farMix := rotateRight far 7 ^^^ rotateRight far 18 ^^^ (far >>> 3)
  latest.getD 15 0 + farMix + latest.getD 6 0 + nearMix

def extended : Nat → List UInt32 → List UInt32
  | 0, latest => latest
  | count + 1, latest => extended count (nextWord latest :: latest)

def schedule (words : List UInt32) : List UInt32 :=
  (extended 48 words.reverse).reverse

def advance (s : State) (entry : UInt32 × UInt32) : State :=
  let highMix := rotateRight s.e 6 ^^^ rotateRight s.e 11 ^^^ rotateRight s.e 25
  let choice := (s.e &&& s.f) ^^^ (~~~s.e &&& s.g)
  let first := s.h + highMix + choice + entry.1 + entry.2
  let lowMix := rotateRight s.a 2 ^^^ rotateRight s.a 13 ^^^ rotateRight s.a 22
  let majority := (s.a &&& s.b) ^^^ (s.a &&& s.c) ^^^ (s.b &&& s.c)
  ⟨first + (lowMix + majority), s.a, s.b, s.c, s.d + first, s.e, s.f, s.g⟩

def compress (state : State) (block : Bytes) : State :=
  let words := (pieces 3 block).map fun bytes => UInt32.ofNat (fromBigEndian bytes)
  let last := (constants.zip (schedule words)).foldl advance state
  ⟨state.a + last.a, state.b + last.b, state.c + last.c, state.d + last.d,
    state.e + last.e, state.f + last.f, state.g + last.g, state.h + last.h⟩

def State.words (s : State) : List UInt32 :=
  [s.a, s.b, s.c, s.d, s.e, s.f, s.g, s.h]

end Sha256

def sha256 (message : Bytes) : Bytes :=
  let last := (pieces 63 (padded (bigEndian 8) message)).foldl Sha256.compress Sha256.initial
  last.words.flatMap fun word => bigEndian 4 word.toNat

@[simp] theorem length_sha256 (message : Bytes) : (sha256 message).length = 32 := by
  simp [sha256, Sha256.State.words]

end RouterGate.Digest
