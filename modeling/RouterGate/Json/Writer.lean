import RouterGate.Json.Value
import RouterGate.Text.Hex
/-!
Writing JSON: no blanks, and in strings only the quote, the backslash and control characters
are escaped.
-/
namespace RouterGate.Json

def charCode (c : Char) : UInt8 :=
  UInt8.ofNat c.toNat

def escape (b : UInt8) : Bytes :=
  if b == 0x22 then [0x5C, 0x22]
  else if b == 0x5C then [0x5C, 0x5C]
  else if b == 0x08 then [0x5C, 0x62]
  else if b == 0x09 then [0x5C, 0x74]
  else if b == 0x0A then [0x5C, 0x6E]
  else if b == 0x0C then [0x5C, 0x66]
  else if b == 0x0D then [0x5C, 0x72]
  else if b < 0x20 then
    [0x5C, 0x75, 0x30, 0x30, charCode (Text.Hex.digit (b.toNat / 16)),
      charCode (Text.Hex.digit (b.toNat % 16))]
  else [b]

def writeString (content : Bytes) : Bytes :=
  0x22 :: content.flatMap escape ++ [0x22]

mutual

def write : Json → Bytes
  | .null => Bytes.ofString "null"
  | .bool value => Bytes.ofString (if value then "true" else "false")
  | .number literal => literal
  | .string content => writeString content
  | .array items => 0x5B :: writeItems items
  | .object members => 0x7B :: writeMembers members

def writeItems : List Json → Bytes
  | [] => [0x5D]
  | [item] => write item ++ [0x5D]
  | item :: others => write item ++ 0x2C :: writeItems others

def writeMembers : List (Bytes × Json) → Bytes
  | [] => [0x7D]
  | [(key, value)] => writeString key ++ 0x3A :: (write value ++ [0x7D])
  | (key, value) :: others =>
      writeString key ++ 0x3A :: (write value ++ 0x2C :: writeMembers others)

end

end RouterGate.Json
