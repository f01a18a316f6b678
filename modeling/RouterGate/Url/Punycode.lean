/-!
Punycode: a label in any script as ASCII letters, digits and hyphens.
-/
namespace RouterGate.Url.Punycode

def digit (n : Nat) : Char :=
  if n < 26 then Char.ofNat (97 + n) else Char.ofNat (22 + n)

def adapt (delta count : Nat) (first : Bool) : Nat :=
  let scaled := if first then delta / 700 else delta / 2
  reduce 20 0 (scaled + scaled / count)
where
  reduce : Nat → Nat → Nat → Nat
    | 0, k, delta => k + 36 * delta / (delta + 38)
    | fuel + 1, k, delta =>
        if delta > 455 then reduce fuel (k + 36) (delta / 35)
        else k + 36 * delta / (delta + 38)

def number : Nat → Nat → Nat → Nat → List Char
  | 0, _, _, _ => []
  | fuel + 1, bias, k, n =>
      let threshold := if k ≤ bias then 1 else if k ≥ bias + 26 then 26 else k - bias
      if n < threshold then [digit n]
      else digit (threshold + (n - threshold) % (36 - threshold)) ::
        number fuel bias (k + 36) ((n - threshold) / (36 - threshold))

structure State where
  delta : Nat
  bias : Nat
  handled : Nat
  output : List Char

def visit (basic n : Nat) (state : State) (c : Char) : State :=
  if c.toNat < n then { state with delta := state.delta + 1 }
  else if c.toNat = n then
    { delta := 0
      bias := adapt state.delta (state.handled + 1) (state.handled == basic)
      handled := state.handled + 1
      output := state.output ++ number 40 state.bias 36 state.delta }
  else state

def ascending (points : List Nat) : List Nat :=
  (points.mergeSort (· ≤ ·)).foldr
    (fun n rest => if rest.head? = some n then rest else n :: rest) []

def encode (label : List Char) : List Char :=
  let basic := label.filter (·.toNat < 128)
  let others := ascending ((label.filter (128 ≤ ·.toNat)).map Char.toNat)
  let start : State :=
    ⟨0, 72, basic.length, basic ++ (if basic.isEmpty then [] else ['-'])⟩
  let (last, _) := others.foldl
    (fun (state, next) n =>
      let raised := { state with delta := state.delta + (n - next) * (state.handled + 1) }
      let visited := label.foldl (visit basic.length n) raised
      ({ visited with delta := visited.delta + 1 }, n + 1))
    (start, 128)
  last.output

end RouterGate.Url.Punycode
