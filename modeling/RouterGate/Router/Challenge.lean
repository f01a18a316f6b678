import RouterGate.Digest.Md5
import RouterGate.Digest.Sha256
import RouterGate.Fault.Basic
import RouterGate.Http.Header
import RouterGate.Text.Blank
/-!
The router's challenge, and the answer that proves knowledge of a password without sending it.
-/
namespace RouterGate.Router

structure Challenge where
  realm : String
  nonce : String
  deriving DecidableEq, Repr

namespace Challenge

def realmHeader : String := "x-ndm-realm"

def nonceHeader : String := "x-ndm-challenge"

/-- The first value of a header, if it is text and not blank. -/
def usable? (name : String) (headers : Http.Headers) : Option String :=
  match Http.Headers.firstText? name headers with
  | none => none
  | some text =>
      let trimmed := Text.trim text
      if trimmed.isEmpty then none else some (String.ofList trimmed)

def ofHeaders (headers : Http.Headers) : Except Fault Challenge :=
  match usable? realmHeader headers, usable? nonceHeader headers with
  | some realm, some nonce => .ok ⟨realm, nonce⟩
  | realm, nonce => .error (.protocol (.noChallenge realm.isSome nonce.isSome))

end Challenge

def hexText (bytes : Bytes) : String :=
  String.ofList (Text.Hex.ofBytes bytes)

def credentialHash (username realm password : String) : String :=
  hexText (Digest.md5 (Bytes.ofString (username ++ ":" ++ realm ++ ":" ++ password)))

def challengeResponse (nonce hash : String) : String :=
  hexText (Digest.sha256 (Bytes.ofString nonce ++ Bytes.ofString hash))

def Challenge.respond (challenge : Challenge) (username password : String) : String :=
  challengeResponse challenge.nonce (credentialHash username challenge.realm password)

end RouterGate.Router
