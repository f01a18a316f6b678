import RouterGate.Fault.Basic
import RouterGate.Text.Cut
/-!
Keys as places in a tree of values: a name, then children after dots and items in brackets.
-/
namespace RouterGate.Settings

inductive Step where
  | child (name : List Char)
  | item (index : Int)
  deriving DecidableEq, Repr

structure Key where
  root : List Char
  steps : List Step
  deriving DecidableEq, Repr

namespace Key

def isNameChar (c : Char) : Bool :=
  c.isAlphanum || c == ' ' || c == '_' || c == '-'

def isIndexBlank (c : Char) : Bool :=
  c == ' ' || c == '\t'

def digitsValue (digits : List Char) : Nat :=
  digits.foldl (fun n c => n * 10 + (c.toNat - 48)) 0

def index? (negative : Bool) (digits : List Char) : Option Int :=
  let n := digitsValue digits
  if negative then (if n ≤ UInt64.size / 2 then some (-(n : Int)) else none)
  else if n < UInt64.size / 2 then some n else none

def readItem (s : List Char) : Except KeyDefect (Int × List Char) :=
  let start := s.dropWhile isIndexBlank
  let negative := start.head? == some '-'
  let (digits, rest) := (if negative then start.drop 1 else start).span Char.isDigit
  if digits.isEmpty then .error .noDigit
  else match index? negative digits with
    | none => .error .indexTooLarge
    | some index =>
        match rest.dropWhile isIndexBlank with
        | ']' :: after => .ok (index, after)
        | _ => .error .strayCharacter

/-- The steps after a name. Each takes a character, so the length bounds them. -/
def readSteps : Nat → List Char → Except KeyDefect (List Step)
  | _, [] => .ok []
  | 0, _ => .error .strayCharacter
  | fuel + 1, '.' :: rest =>
      match rest.span isNameChar with
      | ([], _) => .error .strayCharacter
      | (name, after) => (readSteps fuel after).map (.child name :: ·)
  | fuel + 1, '[' :: rest => do
      let (index, after) ← readItem rest
      let others ← readSteps fuel after
      return .item index :: others
  | _ + 1, _ => .error .strayCharacter

def parse (s : List Char) : Except KeyDefect Key :=
  match s.span isNameChar with
  | ([], _) => .error .noName
  | (root, rest) => (readSteps rest.length rest).map fun steps => ⟨root, steps⟩

end Key

end RouterGate.Settings
