import RouterGate.Api.Message
import RouterGate.Gateway.Identity
import RouterGate.Router.Dialogue
/-!
The pages of the API. The login pages are open to everyone; every other page, those of an
embedding program included, stands behind the gateway.
-/
namespace RouterGate.Api

/-- What makes the answers of a page, for the identity that the gateway allowed. It may tell the
operator things while it runs; asking the router is left to the gateway. -/
structure Handler where
  answer : Request → Identity → Router.Dialogue Response
  asksNothing : ∀ request identity, (answer request identity).AsksNothing

/-- A page that an embedding program adds. -/
structure ExtraPage where
  path : String
  handler : Handler

def ExtraPage.showingIdentity (path : String) : ExtraPage :=
  ⟨path, fun _ identity => .done (.json 200 identity.json), fun _ _ => .done _⟩

inductive OpenPage where
  | login
  | logout
  | check
  deriving DecidableEq, Repr

inductive GuardedPage where
  | system
  | extra (page : ExtraPage)

inductive Page where
  | openTo (page : OpenPage)
  | guarded (page : GuardedPage)

def OpenPage.path : OpenPage → String
  | .login => "/api/auth/login"
  | .logout => "/api/auth/logout"
  | .check => "/api/auth/check"

def GuardedPage.path : GuardedPage → String
  | .system => "/api/system"
  | .extra page => page.path

inductive Methods where
  | reading
  | posting
  deriving DecidableEq, Repr

namespace Methods

def text : Methods → String
  | .reading => "GET,HEAD"
  | .posting => "POST"

def accepts : Methods → String → Bool
  | .reading, method => method == "GET" || method == "HEAD"
  | .posting, method => method == "POST"

end Methods

namespace Page

def path : Page → String
  | .openTo page => page.path
  | .guarded page => page.path

def methods : Page → Methods
  | .openTo .login => .posting
  | .openTo .logout => .posting
  | .openTo .check => .reading
  | .guarded _ => .reading

def all (extra : List ExtraPage) : List Page :=
  [.openTo .login, .openTo .logout, .openTo .check, .guarded .system] ++
    extra.map fun page => .guarded (.extra page)

def find? (extra : List ExtraPage) (path : String) : Option Page :=
  (all extra).find? (·.path == path)

end Page

end RouterGate.Api
