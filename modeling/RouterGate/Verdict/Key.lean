import RouterGate.Digest.Padding
import RouterGate.Digest.Sha256
import RouterGate.Http.Cookie
import RouterGate.Text.Hex
/-!
The keys under which verdicts of the router are kept: digests of what was presented, never the
secrets themselves. Lengths stand before the parts that are digested, so that parts cannot be
shifted against each other, and the two kinds of key begin differently.
-/
namespace RouterGate.Verdict

def lengthBytes (bytes : Bytes) : Bytes :=
  Digest.bigEndian 8 bytes.length

def credentialPreimage (username password : String) : Bytes :=
  Bytes.ofString "cred\x00" ++ lengthBytes (Bytes.ofString username) ++
    Bytes.ofString username ++ Bytes.ofString password

/-- The texts of some cookies, in an order that does not depend on theirs. -/
def orderedPairs (cookies : List Http.Cookie) : List String :=
  (cookies.map Http.Cookie.pairText).mergeSort fun first second => decide (first ≤ second)

def pairBytes (pair : String) : Bytes :=
  lengthBytes (Bytes.ofString pair) ++ Bytes.ofString pair

def cookiePreimage (cookies : List Http.Cookie) : Bytes :=
  Bytes.ofString "cookie\x00" ++ (orderedPairs cookies).flatMap pairBytes

def keyOf (preimage : Bytes) : String :=
  String.ofList (Text.Hex.ofBytes (Digest.sha256 preimage))

def credentialKey (username password : String) : String :=
  keyOf (credentialPreimage username password)

def cookieKey (cookies : List Http.Cookie) : String :=
  keyOf (cookiePreimage cookies)

end RouterGate.Verdict
