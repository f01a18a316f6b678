import RouterGate.Text.Bytes
import RouterGate.Text.Hex
/-!
Percent coding: a byte as a percent sign and two capital hexadecimal digits.
-/
namespace RouterGate.Url

def alwaysHidden (c : Char) : Bool :=
  c.toNat ≤ 0x20 || 0x7F ≤ c.toNat || c == '"' || c == '<' || c == '>'

def hiddenInFragment (c : Char) : Bool :=
  alwaysHidden c || c.toNat == 0x60

def hiddenInQuery (c : Char) : Bool :=
  alwaysHidden c || c == '#' || c.toNat == 0x27

def hiddenInPath (c : Char) : Bool :=
  hiddenInFragment c || c == '#' || c == '?' || c.toNat == 0x7B || c.toNat == 0x7D

def hiddenInUser (c : Char) : Bool :=
  hiddenInPath c || ['/', ':', ';', '=', '@', '[', '\\', ']', '^', '|'].contains c

def percentByte (b : UInt8) : List Char :=
  ['%', Text.Hex.capitalDigit (b.toNat / 16), Text.Hex.capitalDigit (b.toNat % 16)]

def percentEncode (hidden : Char → Bool) (s : List Char) : List Char :=
  s.flatMap fun c =>
    if hidden c then (Bytes.ofString (String.singleton c)).flatMap percentByte else [c]

/-- A percent sign that two hexadecimal digits do not follow stands for itself. -/
def percentDecode : List Char → Bytes
  | [] => []
  | '%' :: a :: b :: rest =>
      match Text.Hex.value? a, Text.Hex.value? b with
      | some x, some y => UInt8.ofNat (x * 16 + y) :: percentDecode rest
      | _, _ => 0x25 :: percentDecode (a :: b :: rest)
  | c :: rest => Bytes.ofString (String.singleton c) ++ percentDecode rest

end RouterGate.Url
