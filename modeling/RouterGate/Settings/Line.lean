import RouterGate.Text.Ascii
import RouterGate.Text.Blank
import RouterGate.Text.Cut
/-!
The file of settings: one `KEY=value` a line. Values are taken as they stand, apart from one
pair of double quotes around them.
-/
namespace RouterGate.Settings

def unquote (s : List Char) : List Char :=
  match s with
  | '"' :: rest => if rest.getLast? = some '"' then rest.dropLast else s
  | _ => s

def entry? (line : List Char) : Option (List Char × List Char) :=
  let text := Text.dropReturn line
  if text.head? = some '#' then none
  else match Text.cut? '=' text with
    | none => none
    | some (before, after) =>
        let key := Text.trim before
        if key.isEmpty then none else some (key, unquote after)

abbrev Assignments := List (String × String)

def assignments (text : List Char) : Assignments :=
  ((Text.lines text).filterMap entry?).map fun entry =>
    (Text.lower (String.ofList entry.1), String.ofList entry.2)

namespace Assignments

def value? (key : String) (all : Assignments) : Option String :=
  (all.reverse.find? (·.1 == key)).map (·.2)

def keys (all : Assignments) : List String :=
  (all.map (·.1)).eraseDups

theorem value?_append (key : String) (first second : Assignments) :
    value? key (first ++ second) = (value? key second).or (value? key first) := by
  simp only [value?, List.reverse_append, List.find?_append]
  cases second.reverse.find? (·.1 == key) <;> simp

end Assignments

theorem unquote_quoted (s : List Char) : unquote ('"' :: (s ++ ['"'])) = s := by
  simp [unquote]

end RouterGate.Settings
