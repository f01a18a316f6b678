import RouterGate.Api.Wire
import RouterGate.Gateway.Clock
import RouterGate.Log.Destination
import RouterGate.Log.Line
import RouterGate.Router.Wire
import RouterGate.Startup
import Std.Async
import Std.Sync.Semaphore
import Std.Time
/-!
The program. It brings the command line, files, sockets and signals to the definitions of the
other modules, which decide everything.
-/
namespace RouterGate.Program

open Std.Async

def timeText (format : String) : IO String := do
  let now ← Std.Time.Timestamp.now
  return (Std.Time.DateTime.ofTimestampWithZone now Std.Time.TimeZone.UTC).format format

def systemCode? : IO.Error → Option UInt32
  | .alreadyExists _ code _ => some code
  | .otherError code _ => some code
  | .resourceBusy code _ => some code
  | .resourceVanished code _ => some code
  | .unsupportedOperation code _ => some code
  | .hardwareFault code _ => some code
  | .unsatisfiedConstraints code _ => some code
  | .illegalOperation code _ => some code
  | .protocolError code _ => some code
  | .timeExpired code _ => some code
  | .interrupted _ code _ => some code
  | .noFileOrDirectory _ code _ => some code
  | .invalidArgument _ code _ => some code
  | .permissionDenied _ code _ => some code
  | .resourceExhausted _ code _ => some code
  | .inappropriateType _ code _ => some code
  | .noSuchThing _ code _ => some code
  | .unexpectedEof => none
  | .userError _ => none

def systemFailures : List (Nat × String × String) := [
  (1, "PermissionDenied", "Operation not permitted"),
  (2, "NotFound", "No such file or directory"),
  (13, "PermissionDenied", "Permission denied"),
  (17, "AlreadyExists", "File exists"),
  (20, "NotADirectory", "Not a directory"),
  (21, "IsADirectory", "Is a directory"),
  (28, "StorageFull", "No space left on device"),
  (30, "ReadOnlyFilesystem", "Read-only file system"),
  (32, "BrokenPipe", "Broken pipe"),
  (98, "AddrInUse", "Address already in use"),
  (99, "AddrNotAvailable", "Cannot assign requested address"),
  (101, "NetworkUnreachable", "Network is unreachable"),
  (104, "ConnectionReset", "Connection reset by peer"),
  (111, "ConnectionRefused", "Connection refused"),
  (113, "HostUnreachable", "No route to host")]

def failure (error : IO.Error) : SystemFailure :=
  match systemCode? error with
  | none => .reported (toString error)
  | some word =>
      let code := word.toInt32.toInt.natAbs
      match systemFailures.lookup code with
      | some (kind, text) => .os code kind text
      | none => .reported (toString error)

structure Output where
  filter : Log.Filter
  asJson : Bool
  file : Option Log.Destination

namespace Output

def filePath (destination : Log.Destination) : IO String := do
  let directory := destination.directory
  let name := destination.dailyName (← timeText "uuuu-MM-dd")
  return (⟨directory.fromRoot, directory.parts ++ [name]⟩ : Files.Path).text

def append (destination : Log.Destination) (text : String) : IO Unit := do
  IO.FS.withFile (← filePath destination) .append fun handle => handle.putStr text

def prepare (output : Output) : IO Unit := do
  match output.file with
  | none => return
  | some destination =>
      if !destination.directory.text.isEmpty then
        IO.FS.createDirAll destination.directory.text
      append destination ""

def tell (output : Output) (event : Log.Event) : IO Unit := do
  if output.filter.admits event then
    let clock ← timeText "uuuu-MM-dd'T'HH:mm:ss.SSSSSS'Z'"
    let line := if output.asJson then event.jsonLine clock else event.plainLine clock
    (← IO.getStderr).putStrLn line
    match output.file with
    | none => return
    | some destination => append destination (line ++ "\n")

end Output

def bytesOf (content : ByteArray) : Bytes :=
  content.toList

def arrayOf (bytes : Bytes) : ByteArray :=
  ⟨bytes.toArray⟩

def systemAddress : Net.SocketAddress → Std.Net.SocketAddress
  | .v4 address port =>
      .v4 ⟨.ofParts (.ofNat (address / 16777216)) (.ofNat (address / 65536))
        (.ofNat (address / 256)) (.ofNat address), .ofNat port⟩
  | .v6 groups _ port =>
      let group := fun index => UInt16.ofNat (groups.getD index 0)
      .v6 ⟨.ofParts (group 0) (group 1) (group 2) (group 3) (group 4) (group 5) (group 6)
        (group 7), .ofNat port⟩

def portOf : Std.Net.SocketAddress → Nat
  | .v4 address => address.port.toNat
  | .v6 address => address.port.toNat

def withPort (port : Nat) : Net.SocketAddress → Net.SocketAddress
  | .v4 address _ => .v4 address port
  | .v6 groups scope _ => .v6 groups scope port

/-- Read from a connection what a reader makes of it; `none` if it ended before. -/
partial def collect (client : TCP.Socket.Client) (received : IO.Ref Bytes)
    (reader : Bytes → Option α) : Async (Option α) := do
  match reader (← received.get) with
  | some value => return some value
  | none =>
      match ← client.recv? 65536 with
      | none => return none
      | some content =>
          received.modify (· ++ bytesOf content)
          collect client received reader

def addressesOf (request : Router.Request) : Async (List Std.Net.SocketAddress) := do
  let host := (request.url.host.dropWhile (· == '[')).toString
  let found ← DNS.getAddrInfo ((host.takeWhile (· != ']')).toString) ""
  let port := UInt16.ofNat (request.url.port.getD 80)
  return found.toList.map fun address =>
    match address with
    | .v4 address => .v4 ⟨address, port⟩
    | .v6 address => .v6 ⟨address, port⟩

def connectTo : List Std.Net.SocketAddress → Async TCP.Socket.Client
  | [] => throw (.userError "no address")
  | address :: rest => do
      let client ← TCP.Socket.Client.mk
      try
        client.connect address
        return client
      catch error =>
        if rest.isEmpty then throw error else connectTo rest

def exchange (client : TCP.Socket.Client) (request : Router.Request) (received : IO.Ref Bytes) :
    Async Router.Delivery := do
  try
    client.send (arrayOf request.bytes)
    match ← collect client received (Router.Delivery.read? · none) with
    | some delivery => return delivery
    | none => return .ofBytes (← received.get) .closed
  catch error => return .ofBytes (← received.get) (.failed (failure error).message)

/-- Bring a request to the router. Secured connections are not offered. -/
def deliver (request : Router.Request) (received : IO.Ref Bytes) : Async Router.Delivery := do
  if request.url.isSecured then return .refused "secured connections are not supported"
  let connected : Except IO.Error TCP.Socket.Client ←
    try Except.ok <$> (connectTo (← addressesOf request))
    catch error => pure (.error error)
  match connected with
  | .error error => return .refused (failure error).message
  | .ok client => exchange client request received

instance : Inhabited Router.Delivery := ⟨Router.unanswered .closed⟩

/-- The reply of the router, for which no longer is waited than its request says. -/
def ask (request : Router.Request) : Async Router.Reply := do
  let started ← IO.monoMsNow
  let received ← IO.mkRef []
  let delivery ← Async.race (deliver request received) do
    sleep (.ofNat request.patience)
    return .ofBytes (← received.get) .late
  return ⟨delivery, (← IO.monoMsNow) - started⟩

/-- The program breaks off at a moment that its clock cannot hold. -/
def breakOff : Async α :=
  throw (.userError "overflow when adding duration to instant")

structure Station where
  output : Output
  machine : Api.Host
  state : IO.Ref (Gateway × Nat)
  turn : Std.Semaphore
  broken : IO.Promise Unit

namespace Station

def hold (output : Output) (dialogue : Router.Dialogue α) : Async α :=
  dialogue.converse ask fun event => output.tell event

def drawTokens : IO (List Draw) :=
  (List.replicate 4 ()).mapM fun _ => do
    try
      let bytes ← IO.getRandomBytes 32
      return .token (String.ofList (Text.Hex.ofBytes (bytesOf bytes)))
    catch error => return .failure (toString error)

def answer (station : Station) (request : Api.Request) : Async Api.Response := do
  await (← station.turn.acquire)
  try
    let now ← IO.monoMsNow
    let (gateway, before) ← station.state.get
    let clock ← timeText "uuuu-MM-dd'T'HH:mm:ss.SSSSSSSSS'+00:00'"
    let (response, kept) ← hold station.output
      (Api.respond { station.machine with clock := clock } [] (gateway.passTime before now) now
        (← drawTokens) request)
    if !kept.fitsClock then
      station.broken.resolve ()
      breakOff
    station.state.set (kept, now)
    return response
  finally
    station.turn.release

def intake : Nat := 2 * Api.bodyLimit

def readRequest? (received : Bytes) : Option (Except Unit Api.Request) :=
  if intake < received.length then some (.error ())
  else
    match Api.Request.read received with
    | .error problem => some (.error problem)
    | .ok none => none
    | .ok (some request) => some (.ok request)

def attend (station : Station) (client : TCP.Socket.Client) : Async Unit := do
  try
    match ← collect client (← IO.mkRef []) readRequest? with
    | none => return
    | some read =>
        let response ← match read with
          | .error _ => pure Api.Response.unreadable
          | .ok request => station.answer request
        let date ← timeText "EEE, dd MMM uuuu HH:mm:ss 'GMT'"
        client.send (arrayOf (response.bytes date))
        client.shutdown
  catch _ => return

partial def welcome (station : Station) (listener : TCP.Socket.Server) : Async Unit := do
  let client ← listener.accept
  background (station.attend client)
  station.welcome listener

def untilSignal : Async Unit := do
  let interrupt ← Signal.Waiter.mk .sigint false
  let termination ← Signal.Waiter.mk .sigterm false
  let interrupted ← interrupt.wait
  let terminated ← termination.wait
  discard <| Async.race (await interrupted) (await terminated)
  interrupt.stop
  termination.stop

end Station

def openListener (address : Net.SocketAddress) :
    IO (Except String (TCP.Socket.Server × Net.SocketAddress)) := do
  try
    let listener ← TCP.Socket.Server.mk
    listener.bind (systemAddress address)
    listener.listen 1024
    return .ok (listener, withPort (portOf (← listener.getSockName)) address)
  catch error => return .error (failure error).message

def serve (output : Output) (listener : TCP.Socket.Server) (gateway : Gateway) (now : Nat) :
    Async Unit := do
  let machine : Api.Host :=
    ⟨← System.getHostName, (← System.getSystemInfo).machine, ""⟩
  let station : Station :=
    ⟨output, machine, ← IO.mkRef (gateway, now), ← Std.Semaphore.new 1, ← IO.Promise.new⟩
  background (station.welcome listener)
  Async.race Station.untilSignal (await station.broken.result!)
  if ← station.broken.isResolved then breakOff
  await (← station.turn.acquire)
  for event in Startup.ending (← station.state.get).1 do
    output.tell event

def operate (output : Output) (options : Cli.Options) (surroundings : Startup.Surroundings) :
    Async (Except Fault Unit) := do
  let now ← IO.monoMsNow
  match ← Station.hold output (Startup.prepare options surroundings now) with
  | .error fault => return .error fault
  | .ok (address, gateway) =>
      if !gateway.reaperStarts then breakOff
      let opened ← openListener address
      let binding : Startup.Binding := fun _ => opened.map (·.2)
      match ← Station.hold output (Startup.listen binding address gateway), opened with
      | .ok gateway, .ok (listener, _) =>
          serve output listener gateway now
          return .ok ()
      | .error fault, _ => return .error fault
      | _, .error reason => return .error (.generic reason)

def readSettings (options : Cli.Options) : IO (List (Files.Path × Bytes)) :=
  (Settings.candidates options.config).filterMapM fun path => do
    try return some (path, bytesOf (← IO.FS.readBinFile path.text))
    catch _ => return none

def fail (fault : Fault) : IO UInt32 := do
  (← IO.getStderr).putStrLn (Startup.failureLine fault)
  return 1

def runWith (environment : List (String × String)) (options : Cli.Options) : IO UInt32 := do
  let output : Output :=
    ⟨options.filter environment, options.logJson, options.logFile.map .ofPath⟩
  let prepared : Except IO.Error Unit ←
    try Except.ok <$> output.prepare
    catch error => pure (.error error)
  match prepared with
  | .error error => fail (.io (failure error))
  | .ok _ =>
      let files ← readSettings options
      let surroundings : Startup.Surroundings :=
        ⟨environment, fun path => files.lookup path, .tableless⟩
      match ← (operate output options surroundings).block with
      | .error fault => fail fault
      | .ok _ => return 0

def run (arguments : List String) : IO UInt32 := do
  let environment := (← Std.Internal.UV.System.osEnviron).toList
  match Cli.Options.read arguments environment with
  | .ok options => runWith environment options
  | .error .help =>
      (Cli.helpLines environment).forM fun line => IO.println line
      return 0
  | .error .version =>
      IO.println Cli.versionLine
      return 0
  | .error (.misuse cause) =>
      cause.lines.forM fun line => IO.eprintln line
      return 2

end RouterGate.Program

def main (arguments : List String) : IO UInt32 :=
  RouterGate.Program.run arguments
