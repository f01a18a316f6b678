import RouterGate.Http.Header
import RouterGate.Text.Ascii
import RouterGate.Text.Base64
import RouterGate.Text.Blank
import RouterGate.Text.Cut
import RouterGate.Text.Quoted
/-!
Usernames with passwords, and the `Basic` scheme that presents them.
-/
namespace RouterGate

structure Credentials where
  username : String
  password : String
  deriving DecidableEq, Repr

namespace Credentials

def agrees (given expected : Credentials) : Bool :=
  given.username == expected.username && given.password == expected.password

theorem agrees_iff {given expected : Credentials} :
    given.agrees expected ↔ given = expected := by
  cases given
  cases expected
  simp [agrees]

def inspected (credentials : Credentials) : String :=
  "Credentials \x7b username: " ++ Text.Quoted.encode credentials.username ++
    ", password: \"<redacted>\" \x7d"

/-- The value of a header that presents the credentials by the `Basic` scheme. -/
def basicValue (credentials : Credentials) : String :=
  "Basic " ++ String.ofList (Text.Base64.encode
    (Bytes.ofString (credentials.username ++ ":" ++ credentials.password)))

def ofText? (text : String) : Option Credentials :=
  (Text.cut? ':' text.toList).map fun parts =>
    ⟨String.ofList parts.1, String.ofList parts.2⟩

def presented? (headers : Http.Headers) : Option Credentials := do
  let value ← Http.Headers.firstText? "authorization" headers
  let (scheme, code) ← Text.cut? ' ' (Text.trim value)
  if Text.sameIgnoringCase scheme "basic".toList then
    let bytes ← Text.Base64.decode? (Text.trim code)
    let text ← Bytes.text? bytes
    ofText? text
  else none

end Credentials

end RouterGate
