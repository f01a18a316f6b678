import Mathlib.Data.Nat.Digits.Defs
import RouterGate.Text.Base64
/-!
Base 64 as a way to write numbers. A message is a number in base 256, and its text is that number
in base 64, moved up until its bits fill the last digit, with marks at the end that tell by how
much. Exactly this text is read.
-/
namespace RouterGate.Text.Base64

/-- The digits in the order of their values. -/
def alphabet : List Char :=
  "ABCDEFGHIJKLMNOPQRSTUVWXYZabcdefghijklmnopqrstuvwxyz0123456789+/".toList

/-- The number that some digits write, the most significant one first. -/
def number (base : Nat) (digits : List Nat) : Nat :=
  Nat.ofDigits base digits.reverse

/-- A text writes a message: its digits are those of the message, moved up by two bits for each
mark at the end. -/
inductive Writes (bytes : Bytes) : List Char → Prop
  | intro {symbols : List Char} {digits : List Nat} {marks : Nat}
      (letters : symbols.map some = digits.map (alphabet[·]?)) (few : marks < 3)
      (fills : 6 * digits.length = 8 * bytes.length + 2 * marks)
      (same : number 64 digits = number 256 (bytes.map UInt8.toNat) * 4 ^ marks) :
      Writes bytes (symbols ++ List.replicate marks '=')

section Digits

theorem alphabet_digit : ∀ n, n < 64 → alphabet[n]? = some (digit n) := by
  decide

theorem digit_ne_mark : ∀ n, n < 64 → digit n ≠ '=' := by
  decide

theorem eq_digit_of_value? {c : Char} {n : Nat} (read : value? c = some n) :
    n < 64 ∧ c = digit n := by
  have shown {place : Nat} (same : c.toNat = place) : c = Char.ofNat place := by
    rw [← same, Char.ofNat_toNat]
  unfold value? at read
  split at read
  next capital =>
    obtain ⟨low, high⟩ : 65 ≤ c.toNat ∧ c.toNat ≤ 90 := capital
    cases read
    have first : c.toNat - 65 < 26 := by omega
    rw [digit, if_pos first]
    exact ⟨by omega, shown (by omega)⟩
  split at read
  next small =>
    obtain ⟨low, high⟩ : 97 ≤ c.toNat ∧ c.toNat ≤ 122 := small
    cases read
    have notFirst : ¬c.toNat - 71 < 26 := by omega
    have second : c.toNat - 71 < 52 := by omega
    rw [digit, if_neg notFirst, if_pos second]
    exact ⟨by omega, shown (by omega)⟩
  split at read
  next decimal =>
    obtain ⟨low, high⟩ : 48 ≤ c.toNat ∧ c.toNat ≤ 57 := decimal
    cases read
    have notFirst : ¬c.toNat + 4 < 26 := by omega
    have notSecond : ¬c.toNat + 4 < 52 := by omega
    have third : c.toNat + 4 < 62 := by omega
    rw [digit, if_neg notFirst, if_neg notSecond, if_pos third]
    exact ⟨by omega, shown (by omega)⟩
  split at read
  next plus =>
    cases read
    exact ⟨by decide, plus⟩
  split at read
  next slash =>
    cases read
    exact ⟨by decide, slash⟩
  next => cases read

end Digits

section Reading

theorem ofNat_eq {b : UInt8} {n : Nat} (same : n = b.toNat) : UInt8.ofNat n = b := by
  rw [same, UInt8.ofNat_toNat]

theorem decode?_encode (bytes : Bytes) : decode? (encode bytes) = some bytes := by
  induction bytes using encode.induct with
  | case1 => rfl
  | case2 a =>
      have small := a.toNat_lt
      have even : a.toNat % 4 * 16 % 16 = 0 := by omega
      have first : UInt8.ofNat (a.toNat / 4 * 4 + a.toNat % 4 * 16 / 16) = a :=
        ofNat_eq (by omega)
      simp only [encode, decode?, value?_digit (a.toNat / 4) (by omega),
        value?_digit (a.toNat % 4 * 16) (by omega), Option.bind_eq_bind, Option.bind_some, even,
        if_true, first]
  | case3 a b =>
      have small := a.toNat_lt
      have small' := b.toNat_lt
      have notMark : digit (b.toNat % 16 * 4) ≠ '=' := digit_ne_mark _ (by omega)
      have even : b.toNat % 16 * 4 % 4 = 0 := by omega
      have first : UInt8.ofNat (a.toNat / 4 * 4 + (a.toNat % 4 * 16 + b.toNat / 16) / 16) = a :=
        ofNat_eq (by omega)
      have second : UInt8.ofNat ((a.toNat % 4 * 16 + b.toNat / 16) % 16 * 16 +
          b.toNat % 16 * 4 / 4) = b := ofNat_eq (by omega)
      rw [encode, decode?.eq_3 _ _ _ notMark]
      simp only [value?_digit (a.toNat / 4) (by omega),
        value?_digit (a.toNat % 4 * 16 + b.toNat / 16) (by omega),
        value?_digit (b.toNat % 16 * 4) (by omega), Option.bind_eq_bind, Option.bind_some, even,
        if_true, first, second]
  | case4 a b c rest induction =>
      have small := a.toNat_lt
      have small' := b.toNat_lt
      have small'' := c.toNat_lt
      have notMark : digit (c.toNat % 64) ≠ '=' := digit_ne_mark _ (by omega)
      have first : UInt8.ofNat (a.toNat / 4 * 4 + (a.toNat % 4 * 16 + b.toNat / 16) / 16) = a :=
        ofNat_eq (by omega)
      have second : UInt8.ofNat ((a.toNat % 4 * 16 + b.toNat / 16) % 16 * 16 +
          (b.toNat % 16 * 4 + c.toNat / 64) / 4) = b := ofNat_eq (by omega)
      have third : UInt8.ofNat ((b.toNat % 16 * 4 + c.toNat / 64) % 4 * 64 + c.toNat % 64) = c :=
        ofNat_eq (by omega)
      rw [encode, decode?.eq_4 _ _ _ _ _ (fun _ mark _ => notMark mark)
        (fun mark _ => notMark mark)]
      simp only [value?_digit (a.toNat / 4) (by omega),
        value?_digit (a.toNat % 4 * 16 + b.toNat / 16) (by omega),
        value?_digit (b.toNat % 16 * 4 + c.toNat / 64) (by omega),
        value?_digit (c.toNat % 64) (by omega), induction, Option.bind_eq_bind,
        Option.bind_some, first, second, third]

/-- Four digits of which the last ones may be wanting make up their bytes again. -/
theorem eq_encode_of_decode? {text : List Char} {bytes : Bytes}
    (read : decode? text = some bytes) : text = encode bytes := by
  induction text using decode?.induct generalizing bytes with
  | case1 =>
      cases read
      rfl
  | case2 c d =>
      simp only [decode?, Option.bind_eq_bind, Option.bind_eq_some_iff] at read
      obtain ⟨x, readX, y, readY, checked⟩ := read
      obtain ⟨smallX, rfl⟩ := eq_digit_of_value? readX
      obtain ⟨smallY, rfl⟩ := eq_digit_of_value? readY
      split at checked
      next even =>
        cases checked
        have byte : (UInt8.ofNat (x * 4 + y / 16)).toNat = x * 4 + y / 16 :=
          UInt8.toNat_ofNat_of_lt' (show _ < 256 by omega)
        have first : (x * 4 + y / 16) / 4 = x := by omega
        have second : (x * 4 + y / 16) % 4 * 16 = y := by omega
        rw [encode, byte, first, second]
      next => cases checked
  | case3 c d e symbol =>
      rw [decode?.eq_3 c d e symbol] at read
      simp only [Option.bind_eq_bind, Option.bind_eq_some_iff] at read
      obtain ⟨x, readX, y, readY, z, readZ, checked⟩ := read
      obtain ⟨smallX, rfl⟩ := eq_digit_of_value? readX
      obtain ⟨smallY, rfl⟩ := eq_digit_of_value? readY
      obtain ⟨smallZ, rfl⟩ := eq_digit_of_value? readZ
      split at checked
      next even =>
        cases checked
        have byte : (UInt8.ofNat (x * 4 + y / 16)).toNat = x * 4 + y / 16 :=
          UInt8.toNat_ofNat_of_lt' (show _ < 256 by omega)
        have byte' : (UInt8.ofNat (y % 16 * 16 + z / 4)).toNat = y % 16 * 16 + z / 4 :=
          UInt8.toNat_ofNat_of_lt' (show _ < 256 by omega)
        have first : (x * 4 + y / 16) / 4 = x := by omega
        have second : (x * 4 + y / 16) % 4 * 16 + (y % 16 * 16 + z / 4) / 16 = y := by omega
        have third : (y % 16 * 16 + z / 4) % 16 * 4 = z := by omega
        rw [encode, byte, byte', first, second, third]
      next => cases checked
  | case4 c d e f rest notTwo notOne induction =>
      rw [decode?.eq_4 c d e f rest notTwo notOne] at read
      simp only [Option.bind_eq_bind, Option.bind_eq_some_iff, Option.some.injEq] at read
      obtain ⟨x, readX, y, readY, z, readZ, w, readW, later, readRest, rfl⟩ := read
      obtain ⟨smallX, rfl⟩ := eq_digit_of_value? readX
      obtain ⟨smallY, rfl⟩ := eq_digit_of_value? readY
      obtain ⟨smallZ, rfl⟩ := eq_digit_of_value? readZ
      obtain ⟨smallW, rfl⟩ := eq_digit_of_value? readW
      have byte : (UInt8.ofNat (x * 4 + y / 16)).toNat = x * 4 + y / 16 :=
        UInt8.toNat_ofNat_of_lt' (show _ < 256 by omega)
      have byte' : (UInt8.ofNat (y % 16 * 16 + z / 4)).toNat = y % 16 * 16 + z / 4 :=
        UInt8.toNat_ofNat_of_lt' (show _ < 256 by omega)
      have byte'' : (UInt8.ofNat (z % 4 * 64 + w)).toNat = z % 4 * 64 + w :=
        UInt8.toNat_ofNat_of_lt' (show _ < 256 by omega)
      have first : (x * 4 + y / 16) / 4 = x := by omega
      have second : (x * 4 + y / 16) % 4 * 16 + (y % 16 * 16 + z / 4) / 16 = y := by omega
      have third : (y % 16 * 16 + z / 4) % 16 * 4 + (z % 4 * 64 + w) / 64 = z := by omega
      have fourth : (z % 4 * 64 + w) % 64 = w := by omega
      rw [encode, byte, byte', byte'', first, second, third, fourth, ← induction readRest]
  | case5 text empty two one group =>
      rw [decode?.eq_5 text empty two one group] at read
      cases read

theorem decode?_eq_some_iff {text : List Char} {bytes : Bytes} :
    decode? text = some bytes ↔ text = encode bytes := by
  constructor
  · exact eq_encode_of_decode?
  · intro same
    rw [same, decode?_encode]

end Reading

section Writing

theorem number_append (base : Nat) (first second : List Nat) :
    number base (first ++ second) =
      number base second + base ^ second.length * number base first := by
  rw [number, List.reverse_append, Nat.ofDigits_append, List.length_reverse]
  rfl

/-- As many bits as the digits have, the bytes have with those that the marks stand for. -/
theorem pow_eq_of_fills {digits bytes marks : Nat} (fills : 6 * digits = 8 * bytes + 2 * marks) :
    64 ^ digits = 256 ^ bytes * 4 ^ marks :=
  calc
    64 ^ digits = 2 ^ (6 * digits) := (pow_mul 2 6 digits).symm
    _ = 2 ^ (8 * bytes) * 2 ^ (2 * marks) := by rw [fills, pow_add]
    _ = 256 ^ bytes * 4 ^ marks := by rw [pow_mul, pow_mul]; rfl

/-- A text goes on writing a message when three bytes are put before the message and their four
digits before the text. -/
theorem Writes.cons {bytes : Bytes} {text : List Char} (a b c : UInt8)
    (writes : Writes bytes text) :
    Writes (a :: b :: c :: bytes)
      (digit (a.toNat / 4) :: digit (a.toNat % 4 * 16 + b.toNat / 16) ::
        digit (b.toNat % 16 * 4 + c.toNat / 64) :: digit (c.toNat % 64) :: text) := by
  have small := a.toNat_lt
  have small' := b.toNat_lt
  have small'' := c.toNat_lt
  cases writes with
  | @intro symbols digits marks letters few fills same =>
      let group := [a.toNat / 4, a.toNat % 4 * 16 + b.toNat / 16, b.toNat % 16 * 4 + c.toNat / 64,
        c.toNat % 64]
      have value : number 64 group = number 256 [a.toNat, b.toNat, c.toNat] := by
        simp only [group, number, List.reverse_cons, List.reverse_nil, List.nil_append,
          List.cons_append, Nat.ofDigits_cons, Nat.ofDigits_nil]
        omega
      refine @Writes.intro _ (group.map digit ++ symbols) (group ++ digits) marks ?_ few ?_ ?_
      · rw [List.map_append, List.map_append, letters]
        simp only [group, List.map_cons, List.map_nil, alphabet_digit (a.toNat / 4) (by omega),
          alphabet_digit (a.toNat % 4 * 16 + b.toNat / 16) (by omega),
          alphabet_digit (b.toNat % 16 * 4 + c.toNat / 64) (by omega),
          alphabet_digit (c.toNat % 64) (by omega)]
      · rw [List.length_append]
        simp only [group, List.length_cons, List.length_nil]
        omega
      · have split : (a :: b :: c :: bytes).map UInt8.toNat =
            [a.toNat, b.toNat, c.toNat] ++ bytes.map UInt8.toNat := rfl
        rw [split, number_append, number_append, same, value, pow_eq_of_fills fills,
          List.length_map, Nat.add_mul, Nat.mul_right_comm]

theorem writes_encode (bytes : Bytes) : Writes bytes (encode bytes) := by
  induction bytes using encode.induct with
  | case1 => exact @Writes.intro [] [] [] 0 rfl (by decide) rfl rfl
  | case2 a =>
      have small := a.toNat_lt
      refine @Writes.intro [a] [digit (a.toNat / 4), digit (a.toNat % 4 * 16)]
        [a.toNat / 4, a.toNat % 4 * 16] 2 ?_ (by decide) rfl ?_
      · simp only [List.map_cons, List.map_nil, alphabet_digit (a.toNat / 4) (by omega),
          alphabet_digit (a.toNat % 4 * 16) (by omega)]
      · simp only [number, List.map_cons, List.map_nil, List.reverse_cons, List.reverse_nil,
          List.nil_append, List.cons_append, Nat.ofDigits_cons, Nat.ofDigits_nil]
        omega
  | case3 a b =>
      have small := a.toNat_lt
      have small' := b.toNat_lt
      refine @Writes.intro [a, b] [digit (a.toNat / 4), digit (a.toNat % 4 * 16 + b.toNat / 16),
        digit (b.toNat % 16 * 4)]
        [a.toNat / 4, a.toNat % 4 * 16 + b.toNat / 16, b.toNat % 16 * 4] 1 ?_ (by decide) rfl ?_
      · simp only [List.map_cons, List.map_nil, alphabet_digit (a.toNat / 4) (by omega),
          alphabet_digit (a.toNat % 4 * 16 + b.toNat / 16) (by omega),
          alphabet_digit (b.toNat % 16 * 4) (by omega)]
      · simp only [number, List.map_cons, List.map_nil, List.reverse_cons, List.reverse_nil,
          List.nil_append, List.cons_append, Nat.ofDigits_cons, Nat.ofDigits_nil]
        omega
  | case4 a b c rest induction => exact induction.cons a b c

theorem lt_of_letters {symbols : List Char} {digits : List Nat}
    (letters : symbols.map some = digits.map (alphabet[·]?)) : ∀ d ∈ digits, d < 64 := by
  intro d member
  have found : alphabet[d]? ∈ symbols.map some := letters ▸ List.mem_map_of_mem member
  obtain ⟨c, -, shown⟩ := List.mem_map.mp found
  exact (List.getElem?_eq_some_iff.mp shown.symm).1

theorem Writes.unique {bytes : Bytes} {first second : List Char} (writes : Writes bytes first)
    (writes' : Writes bytes second) : first = second := by
  cases writes with
  | @intro symbols digits marks letters few fills same =>
      cases writes' with
      | @intro others digits' marks' letters' few' fills' same' =>
          obtain rfl : marks = marks' := by omega
          have aligned : digits.reverse.length = digits'.reverse.length := by
            rw [List.length_reverse, List.length_reverse]
            omega
          have reversed : digits.reverse = digits'.reverse :=
            Nat.ofDigits_inj_of_len_eq (by decide : 1 < 64) aligned
              (fun d member => lt_of_letters letters d (List.mem_reverse.mp member))
              (fun d member => lt_of_letters letters' d (List.mem_reverse.mp member))
              (same.trans same'.symm)
          have spelt : symbols.map some = others.map some := by
            rw [letters, letters', List.reverse_inj.mp reversed]
          rw [(List.map_inj_right fun _ _ => Option.some.inj).mp spelt]

/-- Exactly one text is read as a message: the one that writes it. -/
theorem decode?_eq_some_iff_writes {text : List Char} {bytes : Bytes} :
    decode? text = some bytes ↔ Writes bytes text := by
  rw [decode?_eq_some_iff]
  constructor
  · intro same
    rw [same]
    exact writes_encode bytes
  · intro writes
    exact writes.unique (writes_encode bytes)

end Writing

end RouterGate.Text.Base64
