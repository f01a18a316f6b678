import RouterGate.Text.Bytes
/-!
JSON values as they travel. The content of a string is kept as bytes: what is escaped badly or
is not UTF-8 harms only those who want to read it as text.
-/
namespace RouterGate

inductive Json where
  | null
  | bool (value : Bool)
  /-- A number, as it is written. -/
  | number (literal : Bytes)
  | string (content : Bytes)
  | array (items : List Json)
  | object (members : List (Bytes × Json))
  deriving Inhabited

namespace Json

def text (s : String) : Json :=
  .string (Bytes.ofString s)

def natural (n : Nat) : Json :=
  .number (Bytes.ofString (toString n))

def record (fields : List (String × Json)) : Json :=
  .object (fields.map fun field => (Bytes.ofString field.1, field.2))

def text? : Json → Option String
  | .string content => Bytes.text? content
  | _ => none

def isDigit (b : UInt8) : Bool :=
  0x30 ≤ b && b ≤ 0x39

def digitsValue (digits : Bytes) : Nat :=
  digits.foldl (fun n b => n * 10 + (b.toNat - 48)) 0

/-- A natural number below `2 ^ 64`, written as a plain row of digits. -/
def word? : Json → Option Nat
  | .number literal =>
      if literal.all isDigit ∧ digitsValue literal < UInt64.size then some (digitsValue literal)
      else none
  | _ => none

def valuesOf (name : String) (members : List (Bytes × Json)) : List Json :=
  members.filterMap fun member =>
    if member.1 = Bytes.ofString name then some member.2 else none

/-- The value of a field that may be left out, but not given twice. -/
def field? (members : List (Bytes × Json)) (name : String) : Option (Option Json) :=
  match valuesOf name members with
  | [] => some none
  | [value] => some (some value)
  | _ => none

/-- The fields of a record: by name from an object, whose other members are passed over, or in
order from an array, which must not be longer than the record. -/
def fields? (names : List String) : Json → Option (List (Option Json))
  | .object members =>
      if members.all fun member => (Bytes.text? member.1).isSome then
        names.mapM (field? members)
      else none
  | .array items =>
      if items.length ≤ names.length then
        some ((List.range names.length).map fun i => items[i]?)
      else none
  | _ => none

def textOr (default : String) : Option Json → Option String
  | none => some default
  | some value => value.text?

def wordOr (default : Nat) : Option Json → Option Nat
  | none => some default
  | some value => value.word?

/-- A name on its own, or as the only member of an object, with the value `null`. -/
def name? : Json → Option String
  | .string content => Bytes.text? content
  | .object [(key, .null)] => Bytes.text? key
  | _ => none

end Json

end RouterGate
