import RouterGate.Settings.Key
import RouterGate.Settings.Line
/-!
Layers of settings, the file under the variables of the environment, and what is chosen from
them.
-/
namespace RouterGate.Settings

/-- What stands at a name: a text, or a tree that a longer key has made. -/
inductive Slot where
  | text (value : String)
  | table
  | sequence
  deriving DecidableEq, Repr

abbrev Slots := List (String × Slot)

/-- A key that names no place stands for itself. -/
def slotOf (key value : String) : String × Slot :=
  match Key.parse key.toList with
  | .error _ => (key, .text value)
  | .ok place =>
      match place.steps with
      | [] => (key, .text value)
      | .child _ :: _ => (String.ofList place.root, .table)
      | .item _ :: _ => (String.ofList place.root, .sequence)

def Slots.put (slots : Slots) (name : String) (slot : Slot) : Slots :=
  if slots.any (·.1 == name) then
    slots.map fun entry => if entry.1 == name then (name, slot) else entry
  else slots ++ [(name, slot)]

def slots (all : Assignments) : Slots :=
  all.foldl (fun found entry =>
    let (name, slot) := slotOf entry.1 entry.2
    found.put name slot) []

def wrongSlot (found name : String) : Fault :=
  .config (.wrongType found "a string" name)

def textOf (entry : String × Slot) : Except Fault (String × String) :=
  match entry.2 with
  | .text value => .ok (entry.1, value)
  | .table => .error (wrongSlot "map" entry.1)
  | .sequence => .error (wrongSlot "sequence" entry.1)

def checkKey (entry : String × String) : Except Fault (String × String) :=
  match Key.parse entry.1.toList with
  | .ok _ => .ok (Text.lower entry.1, entry.2)
  | .error defect => .error (.config (.badKey defect))

def layer (all : Assignments) : Except Fault Assignments := do
  let texts ← (slots all).mapM textOf
  texts.mapM checkKey

/-- Small letters for the letters of ASCII and for the two other characters whose small forms
begin with one. -/
def smallLetters (name : List Char) : List Char :=
  name.flatMap fun c =>
    if c = '\u212A' then ['k']
    else if c = '\u0130' then ['i', '\u0307']
    else [c.toLower]

def variablePrefix : List Char := "tt_".toList

def ofVariables (environment : List (String × String)) : Assignments :=
  environment.filterMap fun entry =>
    let name := smallLetters entry.1.toList
    if variablePrefix.isPrefixOf name then
      some (String.ofList (name.drop variablePrefix.length), entry.2)
    else none

def merged (file environment : Assignments) : Except Fault Assignments := do
  let below ← layer file
  let above ← layer environment
  return below ++ above

end RouterGate.Settings
