import RouterGate.Digest.Padding
/-!
The MD5 digest.
-/
namespace RouterGate.Digest.Md5

structure Step where
  turn : UInt32
  constant : UInt32
  word : Nat

structure State where
  a : UInt32
  b : UInt32
  c : UInt32
  d : UInt32

def initial : State :=
  ⟨0x67452301, 0xefcdab89, 0x98badcfe, 0x10325476⟩

def constants : List UInt32 := [
  0xd76aa478, 0xe8c7b756, 0x242070db, 0xc1bdceee, 0xf57c0faf, 0x4787c62a, 0xa8304613, 0xfd469501,
  0x698098d8, 0x8b44f7af, 0xffff5bb1, 0x895cd7be, 0x6b901122, 0xfd987193, 0xa679438e, 0x49b40821,
  0xf61e2562, 0xc040b340, 0x265e5a51, 0xe9b6c7aa, 0xd62f105d, 0x02441453, 0xd8a1e681, 0xe7d3fbc8,
  0x21e1cde6, 0xc33707d6, 0xf4d50d87, 0x455a14ed, 0xa9e3e905, 0xfcefa3f8, 0x676f02d9, 0x8d2a4c8a,
  0xfffa3942, 0x8771f681, 0x6d9d6122, 0xfde5380c, 0xa4beea44, 0x4bdecfa9, 0xf6bb4b60, 0xbebfbc70,
  0x289b7ec6, 0xeaa127fa, 0xd4ef3085, 0x04881d05, 0xd9d4d039, 0xe6db99e5, 0x1fa27cf8, 0xc4ac5665,
  0xf4292244, 0x432aff97, 0xab9423a7, 0xfc93a039, 0x655b59c3, 0x8f0ccc92, 0xffeff47d, 0x85845dd1,
  0x6fa87e4f, 0xfe2ce6e0, 0xa3014314, 0x4e0811a1, 0xf7537e82, 0xbd3af235, 0x2ad7d2bb, 0xeb86d391]

def turns : List (List UInt32) :=
  [[7, 12, 17, 22], [5, 9, 14, 20], [4, 11, 16, 23], [6, 10, 15, 21]]

/-- In round `r` the words are read in the order `(i * step + start) mod 16`. -/
def readOrder : Nat → Nat → Nat
  | 0, i => i
  | 1, i => (5 * i + 1) % 16
  | 2, i => (3 * i + 5) % 16
  | _, i => 7 * i % 16

def steps : List (Nat × Step) :=
  (List.range 64).zipWith
    (fun i constant =>
      (i / 16, ⟨((turns.getD (i / 16) []).getD (i % 4) 0), constant, readOrder (i / 16) i⟩))
    constants

def mix (round : Nat) (state : State) : UInt32 :=
  match round with
  | 0 => (state.b &&& state.c) ||| (~~~state.b &&& state.d)
  | 1 => (state.d &&& state.b) ||| (~~~state.d &&& state.c)
  | 2 => state.b ^^^ state.c ^^^ state.d
  | _ => state.c ^^^ (state.b ||| ~~~state.d)

def advance (words : List UInt32) (state : State) (entry : Nat × Step) : State :=
  let (round, step) := entry
  let sum := state.a + mix round state + step.constant + words.getD step.word 0
  ⟨state.d, state.b + rotateLeft sum step.turn, state.b, state.c⟩

def compress (state : State) (block : Bytes) : State :=
  let words := (pieces 3 block).map fun bytes => UInt32.ofNat (fromBigEndian bytes.reverse)
  let last := steps.foldl (advance words) state
  ⟨state.a + last.a, state.b + last.b, state.c + last.c, state.d + last.d⟩

end Md5

def md5 (message : Bytes) : Bytes :=
  let last := (pieces 63 (padded (littleEndian 8) message)).foldl Md5.compress Md5.initial
  [last.a, last.b, last.c, last.d].flatMap fun word => littleEndian 4 word.toNat

end RouterGate.Digest
