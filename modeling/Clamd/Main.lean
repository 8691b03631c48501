import Clamd.Client.Recorded
import Clamd.CommandLine.Invocation
import Clamd.Program
import Clamd.Program.Help
import Std.Async.DNS
import Std.Async.TCP
import Std.Async.Timer

/-!
# The program in the world

The outer layer: files, standard streams, the clock and connections over TCP. What to do with them
is decided elsewhere.
-/

namespace Clamd.Main

open Std.Async

/-! ### Faults -/

/-- The number of a system error. Some are reported as its negative, in 32 bits. -/
def systemNumber (n : UInt32) : Nat :=
  if n.toNat < 0x80000000 then n.toNat else Word.end32 - n.toNat

/-- The number that comes with an error. -/
def number? : IO.Error → Option UInt32
  | .alreadyExists _ n _ | .otherError n _ | .resourceBusy n _ | .resourceVanished n _
  | .unsupportedOperation n _ | .hardwareFault n _ | .unsatisfiedConstraints n _
  | .illegalOperation n _ | .protocolError n _ | .timeExpired n _ | .interrupted _ n _
  | .noFileOrDirectory _ n _ | .invalidArgument _ n _ | .permissionDenied _ n _
  | .resourceExhausted _ n _ | .inappropriateType _ n _ | .noSuchThing _ n _ => some n
  | .unexpectedEof | .userError _ => none

/-- The fault of an error. -/
def fault (e : IO.Error) : Fault :=
  match (number? e).bind fun n => SystemError.ofNumber? (systemNumber n) with
  | some found => .system found
  | none => .reported (toString e)

/-- What an action comes to. -/
def attempt {α : Type} (action : IO α) : IO (Except Fault α) := do
  match ← action.toBaseIO with
  | .ok a => return .ok a
  | .error e => return .error (fault e)

/-! ### Connections -/

/-- What an action comes to if it ends within a span; an empty span is no limit. -/
def within {α : Type} (span : Span) (late : Fault) (action : Async α) : IO (Except Fault α) :=
  if span.isZero then attempt action.block
  else do
    let limit : Async (Option α) := do
      sleep (Std.Time.Millisecond.Offset.ofNat span.inMillis)
      return none
    match ← attempt (Async.race (some <$> action) limit).block with
    | .ok (some a) => return .ok a
    | .ok none => return .error late
    | .error fault => return .error fault

/-- Connects to an address. -/
def connectTo (s : Settings) (address : Std.Net.IPAddr) :
    IO (Except Fault TCP.Socket.Client) := do
  let port := s.port.toUInt16
  let target : Std.Net.SocketAddress := match address with
    | .v4 addr => .v4 { addr, port }
    | .v6 addr => .v6 { addr, port }
  let socket ← TCP.Socket.Client.mk
  let connected ← within s.connectTimeout (.reported "connection timed out") (socket.connect target)
  return connected.map fun _ => socket

/-- Connects to the first of some addresses that can be reached. `outcome` is what came of the
address before. -/
def connectToAny (s : Settings) (outcome : Except Fault TCP.Socket.Client) :
    List Std.Net.IPAddr → IO (Except Fault TCP.Socket.Client)
  | [] => return outcome
  | address :: rest => do
    match ← connectTo s address with
    | .ok socket => return .ok socket
    | failed => connectToAny s failed rest

/-- Connects to the daemon. -/
def connect (s : Settings) : IO (Except Fault TCP.Socket.Client) := do
  match ← attempt (DNS.getAddrInfo s.host (toString s.port)).block with
  | .error fault => return .error fault
  | .ok addresses =>
    let nowhere := Fault.reported (s.client.address ++ " did not resolve to any address")
    connectToAny s (.error nowhere) addresses.toList

/-- Reads what comes until the other side closes, or a fault, or more than `limit` bytes. -/
partial def receive (s : Settings) (socket : TCP.Socket.Client) (limit : Nat) (got : ByteArray) :
    IO Source := do
  match ← within s.readTimeout (.system .wouldBlock) (socket.recv? 4096) with
  | .error fault => return { bytes := got, ending := some fault }
  | .ok none => return { bytes := got }
  | .ok (some data) =>
    if limit < got.size + data.size then return { bytes := got ++ data }
    else receive s socket limit (got ++ data)

/-- Sends bytes over a connection. -/
def send (s : Settings) (socket : TCP.Socket.Client) (bytes : ByteArray) :
    IO (Except Fault Unit) :=
  if bytes.isEmpty then return .ok ()
  else within s.readTimeout (.system .wouldBlock) (socket.send bytes)

/-- Exchanges a frame, and the upload behind it, for a reply. A source that fails ends the exchange
before the reply. -/
def exchange (s : Settings) (socket : TCP.Socket.Client) (frame : ByteArray)
    (payload : Option Payload) : IO Connection := do
  match ← send s socket frame with
  | .error refusal => return { outgoing := { capacity := some 0, refusal } }
  | .ok _ =>
    let upload : Option Upload.Sent := payload.map fun p => Upload.send p.chunkSize p.source {}
    let outgoing : Sink ← match ← send s socket ((upload.map (·.sink.received)).getD .empty) with
      | .error refusal => pure { capacity := some frame.size, refusal }
      | .ok () => pure {}
    match upload.map Upload.Sent.result with
    | some (.error _) => return { outgoing }
    | _ => return { outgoing, incoming := ← receive s socket Connection.replyLimit .empty }

/-- Runs an errand. -/
def runErrand (s : Settings) (errand : Errand) : IO (Except Fault Connection) := do
  let began ← IO.monoNanosNow
  match ← connect s with
  | .error fault => return .error fault
  | .ok socket =>
    let connection ← match errand with
      | .probe => pure {}
      | .exchange frame payload => exchange s socket frame payload
    discard (attempt socket.shutdown.block)
    let nanos := (← IO.monoNanosNow) - began
    return .ok
      { connection with
        elapsed := { seconds := nanos / 1000000000, nanoseconds := nanos % 1000000000 } }

/-- Carries out a call, one errand after another. -/
partial def call {α : Type} (s : Settings) (f : Network → Session → α × Session)
    (session : Session) (met : List (Except Fault Connection)) : IO (α × Session) := do
  match Client.Recorded.next? f session met with
  | none => return Client.Recorded.answer f session met
  | some errand => call s f session (met ++ [← runErrand s errand])

/-! ### Files -/

/-- Opens what is at a path. All of it is read at once, but a fault of reading is met only by the
reader. -/
def openFile (path : String) : IO (Except Fault Source) := do
  match ← attempt (IO.FS.Handle.mk path .read) with
  | .error fault => return .error fault
  | .ok handle =>
    match ← attempt handle.readBinToEnd with
    | .ok bytes => return .ok { bytes }
    | .error fault => return .ok { bytes := .empty, ending := some fault }

/-- Whether there is a file at a path, and no folder. -/
def isFile (path : String) : IO Bool := do
  match ← openFile path with
  | .ok source => return source.ending.isNone
  | .error _ => return false

/-- The names in the folder at a path that lead to folders. -/
def folders (path : String) : IO (Except Fault (List String)) :=
  attempt do
    let entries ← (← IO.FS.realPath path).readDir
    let found ← entries.filterM fun entry => entry.path.isDir
    return (found.map (·.fileName)).toList

/-- All of standard input. -/
partial def readInput (input : IO.FS.Stream) (got : ByteArray) : IO ByteArray := do
  let data ← input.read 65536
  if data.isEmpty then return got else readInput input (got ++ data)

/-! ### The platform -/

/-- Sleeps for a while, at most up to a deadline. -/
def sleepTowards (deadline : Instant) : IO Unit := do
  let left := deadline.nanos - (← IO.monoNanosNow)
  IO.sleep (min 100 ((left + 999999) / 1000000)).toUInt32

/-- The world itself. -/
def platform (session : IO.Ref Session) : Program.Platform IO where
  call s f := do
    let (answer, after) ← call s f (← session.get) []
    session.set after
    return answer
  home := IO.getEnv "HOME"
  isFile := isFile
  readFile path := attempt (IO.FS.readBinFile path)
  openFile := openFile
  writeFile path content := discard (attempt (IO.FS.writeBinFile path content))
  folders := folders
  input := do readInput (← IO.getStdin) .empty
  print := IO.println
  printError := IO.eprintln
  now := return { nanos := ← IO.monoNanosNow }
  sleep := sleepTowards

/-- Goes on with a run until it exits. -/
partial def finish (on : Program.Platform IO) (progress : Program.Progress) : IO ExitStatus := do
  match progress with
  | .exited status => return status
  | .watching _ => finish on (← Program.resume on progress)

/-- The environment variables that the options know. -/
def readEnvironment : IO (List (String × String)) := do
  let names := CommandLine.Flag.all.filterMap (·.environmentName?)
  names.filterMapM fun name => return (← IO.getEnv name).map fun value => (name, value)

/-- Runs the program with the given arguments. -/
def runProgram (args : List String) : IO ExitStatus := do
  let on := platform (← IO.mkRef {})
  let environment ← readEnvironment
  match CommandLine.Invocation.ofArgs (fun name => List.lookup name environment) args with
  | .error usage => Program.presentUsage on usage
  | .ok invocation => finish on (← Program.start on invocation)

end Clamd.Main

/-- Runs the program and exits with its status. -/
def main (args : List String) : IO UInt32 :=
  return (← Clamd.Main.runProgram args).code.toUInt32
