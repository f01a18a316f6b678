import RouterGate.Text.Bytes
/-!
Small hexadecimal digits.
-/
namespace RouterGate.Text.Hex

def digit (n : Nat) : Char :=
  if n < 10 then Char.ofNat (48 + n) else Char.ofNat (87 + n)

def capitalDigit (n : Nat) : Char :=
  if n < 10 then Char.ofNat (48 + n) else Char.ofNat (55 + n)

def value? (c : Char) : Option Nat :=
  if '0' ≤ c ∧ c ≤ '9' then some (c.toNat - 48)
  else if 'a' ≤ c ∧ c ≤ 'f' then some (c.toNat - 87)
  else if 'A' ≤ c ∧ c ≤ 'F' then some (c.toNat - 55)
  else none

theorem value?_digit : ∀ n, n < 16 → value? (digit n) = some n := by
  decide

def ofBytes (bytes : Bytes) : List Char :=
  bytes.flatMap fun b => [digit (b.toNat / 16), digit (b.toNat % 16)]

theorem digit_inj {m n : Nat} (small : m < 16) (small' : n < 16) (same : digit m = digit n) :
    m = n := by
  have read := value?_digit m small
  rw [same, value?_digit n small'] at read
  exact (Option.some.inj read).symm

theorem ofBytes_injective {a b : Bytes} (same : ofBytes a = ofBytes b) : a = b := by
  induction a generalizing b with
  | nil =>
      cases b with
      | nil => rfl
      | cons y others => cases same
  | cons x rest induction =>
      cases b with
      | nil => cases same
      | cons y others =>
          simp only [ofBytes, List.flatMap_cons, List.cons_append, List.nil_append,
            List.cons.injEq] at same induction
          obtain ⟨high, low, later⟩ := same
          have small := x.toNat_lt
          have small' := y.toNat_lt
          have high' := digit_inj (by omega) (by omega) high
          have low' := digit_inj (by omega) (by omega) low
          have whole : x.toNat = y.toNat := by omega
          rw [UInt8.toNat_inj.mp whole, induction later]

def ofNat (n : Nat) : List Char :=
  Nat.toDigits 16 n

end RouterGate.Text.Hex
