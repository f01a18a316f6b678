import RouterGate.Json.Value
import RouterGate.Text.Hex
/-!
Reading JSON from bytes. A document is one value with blanks around it.
-/
namespace RouterGate.Json

def isSpace (b : UInt8) : Bool :=
  b == 0x20 || b == 0x09 || b == 0x0A || b == 0x0D

def skipSpace (s : Bytes) : Bytes :=
  s.dropWhile isSpace

def unit? (a b c d : UInt8) : Option Nat := do
  let x ← Text.Hex.value? (Char.ofNat a.toNat)
  let y ← Text.Hex.value? (Char.ofNat b.toNat)
  let z ← Text.Hex.value? (Char.ofNat c.toNat)
  let w ← Text.Hex.value? (Char.ofNat d.toNat)
  some (((x * 16 + y) * 16 + z) * 16 + w)

def isHighUnit (u : Nat) : Bool :=
  0xD800 ≤ u && u < 0xDC00

def isLowUnit (u : Nat) : Bool :=
  0xDC00 ≤ u && u < 0xE000

/-- The bytes of a code point in the UTF-8 pattern; half a surrogate pair gives bytes that are
no text. -/
def pointBytes (n : Nat) : Bytes :=
  if n < 0x80 then [UInt8.ofNat n]
  else if n < 0x800 then [UInt8.ofNat (0xC0 + n / 64), UInt8.ofNat (0x80 + n % 64)]
  else if n < 0x10000 then
    [UInt8.ofNat (0xE0 + n / 4096), UInt8.ofNat (0x80 + n / 64 % 64), UInt8.ofNat (0x80 + n % 64)]
  else
    [UInt8.ofNat (0xF0 + n / 262144), UInt8.ofNat (0x80 + n / 4096 % 64),
      UInt8.ofNat (0x80 + n / 64 % 64), UInt8.ofNat (0x80 + n % 64)]

def escaped? (b : UInt8) : Option UInt8 :=
  if b == 0x22 || b == 0x5C || b == 0x2F then some b
  else if b == 0x62 then some 0x08
  else if b == 0x66 then some 0x0C
  else if b == 0x6E then some 0x0A
  else if b == 0x72 then some 0x0D
  else if b == 0x74 then some 0x09
  else none

/-- A first half of a surrogate pair that no second half follows stands on its own. -/
def settled (high : Option Nat) (content : Bytes) : Bytes :=
  match high with
  | none => content
  | some unit => (pointBytes unit).reverse ++ content

/-- The rest of a string after its opening quote: `content` is what was read, the latest byte
first, and `high` a first half of a surrogate pair that waits for its second. -/
def readString (high : Option Nat) (content : Bytes) : Bytes → Option (Bytes × Bytes)
  | [] => none
  | 0x22 :: rest => some ((settled high content).reverse, rest)
  | 0x5C :: 0x75 :: a :: b :: c :: d :: rest =>
      match unit? a b c d with
      | none => none
      | some unit =>
          match high with
          | some first =>
              if isLowUnit unit then
                let point := 0x10000 + (first - 0xD800) * 0x400 + (unit - 0xDC00)
                readString none ((pointBytes point).reverse ++ content) rest
              else if isHighUnit unit then readString (some unit) (settled high content) rest
              else readString none ((pointBytes unit).reverse ++ settled high content) rest
          | none =>
              if isHighUnit unit then readString (some unit) content rest
              else readString none ((pointBytes unit).reverse ++ content) rest
  | 0x5C :: code :: rest =>
      match escaped? code with
      | none => none
      | some b => readString none (b :: settled high content) rest
  | b :: rest =>
      if b < 0x20 then none else readString none (b :: settled high content) rest

def readDigits? (s : Bytes) : Option (Bytes × Bytes) :=
  match s.span isDigit with
  | ([], _) => none
  | found => some found

def readWhole? : Bytes → Option (Bytes × Bytes)
  | 0x30 :: rest => some ([0x30], rest)
  | s => readDigits? s

def readFraction? : Bytes → Option (Bytes × Bytes)
  | 0x2E :: rest => (readDigits? rest).map fun found => (0x2E :: found.1, found.2)
  | s => some ([], s)

def readSign : Bytes → Bytes × Bytes
  | 0x2B :: rest => ([0x2B], rest)
  | 0x2D :: rest => ([0x2D], rest)
  | s => ([], s)

def readExponent? : Bytes → Option (Bytes × Bytes)
  | [] => some ([], [])
  | letter :: rest =>
      if letter == 0x65 || letter == 0x45 then
        let (sign, digits) := readSign rest
        (readDigits? digits).map fun found => (letter :: (sign ++ found.1), found.2)
      else some ([], letter :: rest)

def readUnsigned? (s : Bytes) : Option (Bytes × Bytes) := do
  let (whole, afterWhole) ← readWhole? s
  let (fraction, afterFraction) ← readFraction? afterWhole
  let (exponent, rest) ← readExponent? afterFraction
  some (whole ++ (fraction ++ exponent), rest)

def readNumber? : Bytes → Option (Json × Bytes)
  | 0x2D :: rest => (readUnsigned? rest).map fun found => (.number (0x2D :: found.1), found.2)
  | s => (readUnsigned? s).map fun found => (.number found.1, found.2)

def readWord? (word : String) (value : Json) (s : Bytes) : Option (Json × Bytes) :=
  let letters := Bytes.ofString word
  if letters.isPrefixOf s then some (value, s.drop letters.length) else none

mutual

def readValue : Nat → Bytes → Option (Json × Bytes)
  | 0, _ => none
  | fuel + 1, s =>
      match skipSpace s with
      | 0x22 :: rest => (readString none [] rest).map fun found => (.string found.1, found.2)
      | 0x5B :: rest =>
          match skipSpace rest with
          | 0x5D :: after => some (.array [], after)
          | inside => readItems fuel [] inside
      | 0x7B :: rest =>
          match skipSpace rest with
          | 0x7D :: after => some (.object [], after)
          | inside => readMembers fuel [] inside
      | 0x74 :: rest => readWord? "true" (.bool true) (0x74 :: rest)
      | 0x66 :: rest => readWord? "false" (.bool false) (0x66 :: rest)
      | 0x6E :: rest => readWord? "null" .null (0x6E :: rest)
      | other => readNumber? other

def readItems : Nat → List Json → Bytes → Option (Json × Bytes)
  | 0, _, _ => none
  | fuel + 1, items, s =>
      match readValue fuel s with
      | none => none
      | some (value, rest) =>
          match skipSpace rest with
          | 0x2C :: more => readItems fuel (value :: items) more
          | 0x5D :: after => some (.array (value :: items).reverse, after)
          | _ => none

def readMembers : Nat → List (Bytes × Json) → Bytes → Option (Json × Bytes)
  | 0, _, _ => none
  | fuel + 1, members, s =>
      match skipSpace s with
      | 0x22 :: rest =>
          match readString none [] rest with
          | none => none
          | some (key, afterKey) =>
              match skipSpace afterKey with
              | 0x3A :: afterColon =>
                  match readValue fuel afterColon with
                  | none => none
                  | some (value, afterValue) =>
                      match skipSpace afterValue with
                      | 0x2C :: more => readMembers fuel ((key, value) :: members) more
                      | 0x7D :: after => some (.object ((key, value) :: members).reverse, after)
                      | _ => none
              | _ => none
      | _ => none

end

/-- The value that a whole document writes. Every step of the reader passes over a byte or
enters a value, so twice the length bounds them. -/
def read? (document : Bytes) : Option Json :=
  match readValue (2 * document.length + 2) document with
  | some (value, rest) => if (skipSpace rest).isEmpty then some value else none
  | none => none

end RouterGate.Json
