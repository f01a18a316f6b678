import RouterGate.Text.Hex
import RouterGate.Text.Printable
/-!
Quoted text for operators: double quotes around, with the backslash, the quote and whatever
does not show plainly written as escapes.
-/
namespace RouterGate.Text.Quoted

def escape (c : Char) : List Char :=
  if c = '\t' then ['\\', 't']
  else if c = '\r' then ['\\', 'r']
  else if c = '\n' then ['\\', 'n']
  else if c = '\x00' then ['\\', '0']
  else if c = '"' then ['\\', '"']
  else if c = '\\' then ['\\', '\\']
  else if Printable.isPlain c then [c]
  else ['\\', 'u', '\x7b'] ++ Hex.ofNat c.toNat ++ ['\x7d']

def encode (s : String) : String :=
  String.ofList ('"' :: s.toList.flatMap escape ++ ['"'])

end RouterGate.Text.Quoted
