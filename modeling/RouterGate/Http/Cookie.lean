import RouterGate.Http.Header
import RouterGate.Text.Blank
import RouterGate.Text.Cut
/-!
Cookies: the pairs that a request presents, the pairs that an answer sets, and the header
values that carry them.
-/
namespace RouterGate.Http

structure Cookie where
  name : String
  value : String
  deriving DecidableEq, Repr

namespace Cookie

def sessionName : String := "tt_session"

/-- A pair `name=value` with blanks around its parts; a blank name makes no pair. -/
def ofPair? (pair : List Char) : Option Cookie :=
  match Text.cut? '=' (Text.trim pair) with
  | none => none
  | some (before, after) =>
      let name := Text.trim before
      if name.isEmpty then none
      else some ⟨String.ofList name, String.ofList (Text.trim after)⟩

def ofText (text : List Char) : List Cookie :=
  (Text.fields ';' text).filterMap ofPair?

def presented (headers : Headers) : List Cookie :=
  (Headers.texts "cookie" headers).flatMap ofText

def valueOf? (name : String) (cookies : List Cookie) : Option String :=
  (cookies.find? (·.name == name)).map (·.value)

def pairText (cookie : Cookie) : String :=
  cookie.name ++ "=" ++ cookie.value

def headerText (cookies : List Cookie) : String :=
  "; ".intercalate (cookies.map pairText)

/-- What a value of `Set-Cookie` sets, without its attributes: its first part, if it has a
name. -/
def setPair? (text : List Char) : Option String :=
  let pair := Text.trim ((Text.fields ';' text).headD [])
  if pair.contains '=' && pair.head? != some '=' then some (String.ofList pair) else none

def setPairs (headers : Headers) : List String :=
  (Headers.texts "set-cookie" headers).filterMap setPair?

def returned? (headers : Headers) : Option String :=
  match setPairs headers with
  | [] => none
  | pairs => some ("; ".intercalate pairs)

/-- Sets the session cookie for a lifetime in milliseconds; whole seconds are given. -/
def settingSession (token : String) (lifetime : Nat) : String :=
  sessionName ++ "=" ++ token ++ "; Path=/; HttpOnly; SameSite=Lax; Max-Age=" ++
    toString (lifetime / 1000)

def clearingSession : String :=
  sessionName ++ "=; Path=/; HttpOnly; SameSite=Lax; Max-Age=0"

theorem settingSession_inj {first second : String} {lifetime : Nat} :
    settingSession first lifetime = settingSession second lifetime ↔ first = second := by
  simp only [settingSession, String.append_left_inj, String.append_right_inj]

theorem presented_append (first second : Headers) :
    presented (first ++ second) = presented first ++ presented second := by
  simp [presented]

end Cookie

end RouterGate.Http
