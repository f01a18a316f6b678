import RouterGate.Cli.Options
import RouterGate.Gateway.Login
import RouterGate.Log.Filter
/-!
From the options to a gateway that listens, and back to the end of the program.
-/
namespace RouterGate

namespace Cli.Options

def filter (options : Options) (environment : List (String × String)) : Log.Filter :=
  .choose options.debug (environment.lookup "RUST_LOG") .info

end Cli.Options

namespace Startup

/-- What a start finds: the variables, the files that can be read, and how names of hosts are
mapped. -/
structure Surroundings where
  environment : List (String × String)
  read : Files.Path → Option Bytes
  hosts : Url.HostMapping

/-- What comes of listening at an address: the address that was taken, or the reason why there
is none. -/
abbrev Binding := Net.SocketAddress → Except String Net.SocketAddress

def startingEvent (options : Cli.Options) : Log.Event :=
  ⟨.info, .main, "Starting TrustTunnel manager",
    [("version", .quoted Program.version), ("config", .shown options.config)]⟩

def settings (options : Cli.Options) (surroundings : Surroundings) : Except Fault Settings :=
  (Settings.load (Settings.fileText? surroundings.read options.config)
    surroundings.environment).map fun loaded =>
      match options.addr with
      | none => loaded
      | some addr => { loaded with listenAddr := addr }

def guessEvent (gateway : Gateway) : Log.Event :=
  ⟨.warn, .main, "Router address discovery failed, router logins may not work",
    [("router", .quoted (gateway.routerUrl?.getD ""))]⟩

def listeningEvent (gateway : Gateway) (address : Net.SocketAddress) : Log.Event :=
  ⟨.info, .server, "Management API listening",
    [("addr", .shown address.text), ("auth_mode", .shown gateway.mode.shown)]⟩

def openGateway (hosts : Url.HostMapping) (plan : AuthPlan) (now : Nat) :
    Router.Dialogue Gateway := do
  let gateway ← Gateway.ofPlan hosts plan now
  if gateway.isDegraded then Router.Dialogue.say (guessEvent gateway)
  return gateway

/-- Read the settings, then the address, then the plan, and build the gateway; the first fault
ends it. -/
def prepare (options : Cli.Options) (surroundings : Surroundings) (now : Nat) :
    Router.Dialogue (Except Fault (Net.SocketAddress × Gateway)) := do
  Router.Dialogue.say (startingEvent options)
  match settings options surroundings with
  | .error fault => return .error fault
  | .ok settings =>
      match settings.listenAddress, settings.plan with
      | .error fault, _ => return .error fault
      | .ok _, .error fault => return .error fault
      | .ok address, .ok plan =>
          Router.Dialogue.say settings.modeEvent
          let gateway ← openGateway surroundings.hosts plan now
          return .ok (address, gateway)

def listen (bind : Binding) (address : Net.SocketAddress) (gateway : Gateway) :
    Router.Dialogue (Except Fault Gateway) :=
  match bind address with
  | .error reason => .done (.error (.config (.cannotBind address.text reason)))
  | .ok taken => .note (listeningEvent gateway taken) (.done (.ok gateway))

def launch (options : Cli.Options) (surroundings : Surroundings) (bind : Binding) (now : Nat) :
    Router.Dialogue (Except Fault Gateway) := do
  match ← prepare options surroundings now with
  | .error fault => return .error fault
  | .ok (address, gateway) => listen bind address gateway

def stoppingEvent : Log.Event :=
  ⟨.info, .main, "Shutting down...", []⟩

def stoppedEvent : Log.Event :=
  ⟨.info, .server, "Management API stopped", []⟩

def farewellEvent : Log.Event :=
  ⟨.info, .main, "Shutdown complete", []⟩

def ending (gateway : Gateway) : List Log.Event :=
  [stoppingEvent, stoppedEvent] ++ gateway.shutdownNotes ++ [farewellEvent]

def failureLine (fault : Fault) : String :=
  "Error: " ++ fault.inspected

end Startup

end RouterGate
