/-!
Blank characters: those with the Unicode property `White_Space`, and the texts left when
they are taken off both ends.
-/
namespace RouterGate.Text

def isBlank (c : Char) : Bool :=
  let n := c.toNat
  (9 ≤ n && n ≤ 13) || n == 0x20 || n == 0x85 || n == 0xA0 || n == 0x1680 ||
    (0x2000 ≤ n && n ≤ 0x200A) || n == 0x2028 || n == 0x2029 || n == 0x202F ||
    n == 0x205F || n == 0x3000

def trimStart (s : List Char) : List Char :=
  s.dropWhile isBlank

def trimEnd (s : List Char) : List Char :=
  (s.reverse.dropWhile isBlank).reverse

def trim (s : List Char) : List Char :=
  trimEnd (trimStart s)

@[simp] theorem trim_nil : trim [] = [] := rfl

theorem mem_of_mem_trim {c : Char} {s : List Char} (member : c ∈ trim s) : c ∈ s := by
  rw [trim, trimEnd, List.mem_reverse] at member
  have early := (List.dropWhile_sublist _).subset member
  rw [List.mem_reverse, trimStart] at early
  exact (List.dropWhile_sublist _).subset early

end RouterGate.Text
