import RouterGate.Text.Bytes
/-!
The message padding that both digests use: a single bit, zeros up to eight bytes short of a
block of sixty-four, and the length of the message in bits.
-/
namespace RouterGate.Digest

/-- Consecutive pieces of `size + 1` elements; the last may be shorter. -/
def pieces (size : Nat) : List α → List (List α)
  | [] => []
  | x :: rest => (x :: rest.take size) :: pieces size (rest.drop size)
termination_by list => list.length
decreasing_by
  simp only [List.length_drop, List.length_cons]
  omega

def padded (lengthBytes : Nat → Bytes) (message : Bytes) : Bytes :=
  message ++ 0x80 :: List.replicate ((119 - message.length % 64) % 64) 0 ++
    lengthBytes (8 * message.length)

def littleEndian : Nat → Nat → Bytes
  | 0, _ => []
  | count + 1, n => UInt8.ofNat n :: littleEndian count (n / 256)

def bigEndian (count n : Nat) : Bytes :=
  (littleEndian count n).reverse

@[simp] theorem length_littleEndian (count n : Nat) :
    (littleEndian count n).length = count := by
  induction count generalizing n with
  | zero => rfl
  | succ count induction => simp [littleEndian, induction]

@[simp] theorem length_bigEndian (count n : Nat) :
    (bigEndian count n).length = count := by
  simp [bigEndian]

theorem littleEndian_inj {count m n : Nat} (fits : m < Nat.pow 256 count)
    (fits' : n < Nat.pow 256 count) (same : littleEndian count m = littleEndian count n) :
    m = n := by
  induction count generalizing m n with
  | zero =>
      change m < 1 at fits
      change n < 1 at fits'
      omega
  | succ count induction =>
      simp only [littleEndian, List.cons.injEq] at same
      obtain ⟨low, high⟩ := same
      have low' : m % 256 = n % 256 := by
        rw [← UInt8.toNat_inj] at low
        exact low
      change m < Nat.pow 256 count * 256 at fits
      change n < Nat.pow 256 count * 256 at fits'
      have high' : m / 256 = n / 256 := by
        apply induction _ _ high
        · exact Nat.div_lt_of_lt_mul (Nat.mul_comm _ _ ▸ fits)
        · exact Nat.div_lt_of_lt_mul (Nat.mul_comm _ _ ▸ fits')
      omega

theorem bigEndian_inj {count m n : Nat} (fits : m < Nat.pow 256 count)
    (fits' : n < Nat.pow 256 count) (same : bigEndian count m = bigEndian count n) : m = n :=
  littleEndian_inj fits fits' (List.reverse_inj.mp same)

def fromBigEndian (bytes : Bytes) : Nat :=
  bytes.foldl (fun n b => n * 256 + b.toNat) 0

def rotateLeft (word : UInt32) (bits : UInt32) : UInt32 :=
  (word <<< bits) ||| (word >>> (32 - bits))

end RouterGate.Digest
