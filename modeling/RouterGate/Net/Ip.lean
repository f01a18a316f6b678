import RouterGate.Text.Cut
import RouterGate.Text.Hex
/-!
Internet addresses in their usual notation: four decimal octets, or eight hexadecimal groups
of which one run of zeros may be left out.
-/
namespace RouterGate.Net

def decimal? (s : List Char) : Option Nat :=
  if s.isEmpty || !s.all Char.isDigit then none
  else some (s.foldl (fun n c => n * 10 + (c.toNat - 48)) 0)

def inBase? (base : Nat) (s : List Char) : Option Nat :=
  if s.isEmpty then none
  else s.foldlM (fun n c => do
    let d ← Text.Hex.value? c
    if d < base then some (n * base + d) else none) 0

def octet? (s : List Char) : Option Nat :=
  if s.length > 3 || (s.length > 1 && s.head? == some '0') then none
  else (decimal? s).bind fun n => if n < 256 then some n else none

def ipv4? (s : List Char) : Option Nat :=
  match (Text.fields '.' s).mapM octet? with
  | some [a, b, c, d] => some (((a * 256 + b) * 256 + c) * 256 + d)
  | _ => none

def ipv4Text (address : Nat) : String :=
  ".".intercalate
    ([16777216, 65536, 256, 1].map fun place => toString (address / place % 256))

def group? (s : List Char) : Option Nat :=
  if s.length > 4 then none else inBase? 16 s

/-- Groups with colons between them; the last may be a version 4 address and counts twice. -/
def groups? (mixed : Bool) : List (List Char) → Option (List Nat)
  | [] => some []
  | [last] =>
      match group? last with
      | some n => some [n]
      | none =>
          if mixed then (ipv4? last).map fun address => [address / 65536, address % 65536]
          else none
  | piece :: others => do
      let n ← group? piece
      let rest ← groups? mixed others
      some (n :: rest)

def groupsOfText? (mixed : Bool) (s : List Char) : Option (List Nat) :=
  if s.isEmpty then some [] else groups? mixed (Text.fields ':' s)

def cutDouble? : List Char → Option (List Char × List Char)
  | ':' :: ':' :: rest => some ([], rest)
  | c :: rest => (cutDouble? rest).map fun parts => (c :: parts.1, parts.2)
  | [] => none

def ipv6? (s : List Char) : Option (List Nat) :=
  match cutDouble? s with
  | none => (groupsOfText? true s).bind fun groups =>
      if groups.length = 8 then some groups else none
  | some (before, after) => do
      let head ← groupsOfText? false before
      let tail ← groupsOfText? true after
      if head.length + tail.length ≤ 7 then
        some (head ++ List.replicate (8 - head.length - tail.length) 0 ++ tail)
      else none

def leadingZeros (groups : List Nat) : Nat :=
  (groups.takeWhile (· == 0)).length

/-- Where the longest run of zeros starts and how long it is; of two equal runs the first. -/
def longestZeros (groups : List Nat) : Nat × Nat :=
  (List.range groups.length).foldl
    (fun best start =>
      let length := leadingZeros (groups.drop start)
      if length > best.2 then (start, length) else best)
    (0, 0)

def groupsText (groups : List Nat) : String :=
  ":".intercalate (groups.map fun n => String.ofList (Text.Hex.ofNat n))

/-- The longest run of at least two zeros is left out. -/
def ipv6Text (groups : List Nat) : String :=
  let (start, length) := longestZeros groups
  if length > 1 then
    groupsText (groups.take start) ++ "::" ++ groupsText (groups.drop (start + length))
  else groupsText groups

end RouterGate.Net
