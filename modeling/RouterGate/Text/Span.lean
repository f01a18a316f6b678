/-!
Spans of time in milliseconds, as operators read them.
-/
namespace RouterGate.Text.Span

def fractionDigits (thousandths : Nat) : List Char :=
  let digits := [thousandths / 100 % 10, thousandths / 10 % 10, thousandths % 10]
  (digits.reverse.dropWhile (· == 0)).reverse.map Nat.digitChar

/-- Whole seconds with their fraction; less than one second is told in milliseconds, and no time
at all in the smallest unit. -/
def text (milliseconds : Nat) : String :=
  if milliseconds = 0 then "0ns"
  else if milliseconds < 1000 then toString milliseconds ++ "ms"
  else
    match fractionDigits (milliseconds % 1000) with
    | [] => toString (milliseconds / 1000) ++ "s"
    | digits => toString (milliseconds / 1000) ++ "." ++ String.ofList digits ++ "s"

end RouterGate.Text.Span
