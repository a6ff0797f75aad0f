import SiteReport.CommandLine.Run
import SiteReport.Picture.HeaderCodec
import SiteReport.Service.Message
import Std.Async.DNS
import Std.Async.TCP
import Std.Async.Timer
import Std.Time

/-!
The program itself: it looks at files, clock, environment and network, lets the call run in that
world, prints what the call says and writes its database.
-/

namespace SiteReport.Program

open Std Std.Async

/-- What stands at a path. -/
def lookAt (path : String) : IO Look := do
  try
    return .file (← IO.FS.readBinFile path).toList
  catch
    | .inappropriateType _ 21 _ => return .folder
    | .permissionDenied .. => return .locked
    | _ => return .absent

/-- Variables as the system hands them over: each ends with a zero byte. -/
def environment : IO (List Variable) := do
  match (← lookAt "/proc/self/environ").text with
  | .error _ => return []
  | .ok text =>
    return (text.splitOn "\x00").filterMap fun entry =>
      (afterEquals entry.toList).map fun value =>
        ⟨String.ofList (entry.toList.takeWhile (· ≠ '=')), String.ofList value⟩

/-- Looks at the paths that were not looked at before. -/
def lookAtAll (seen : List (String × Look)) (paths : List String) :
    IO (List (String × Look)) :=
  paths.foldlM (fun seen path => do
    if (seen.lookup path).isSome then return seen
    return (path, ← lookAt path) :: seen) seen

def seenAt (seen : List (String × Look)) (path : String) : Look := (seen.lookup path).getD .absent

/-- The settings have to be seen before the paths they name, and a description before its photos. -/
def lookAround (w : World) (i : Invocation) : IO World := do
  let mut seen := []
  for _ in [0:3] do
    seen ← lookAtAll seen (i.needs { w with look := seenAt seen })
  return { w with look := seenAt seen }

/-- The first instant of the calendar that most systems count from. -/
def epoch : Timestamp := ⟨⟨1970, 1, 1, by decide, by decide, by decide⟩,
  ⟨0, 0, 0, 0, by decide, by decide, by decide, by decide⟩⟩

def millisNow : IO Nat := do
  return (← Time.Timestamp.now).toMillisecondsSinceUnixEpoch.val.toNat

/-- Identifiers of this instant, counted on from a random number. -/
def freshIds (millis : Nat) : IO (Nat → PhotoId) := do
  let start := (← IO.getRandomBytes 9).toList.foldl (fun n b => n * 256 + b.toNat) 0
  return fun n => PhotoId.timeOrdered millis (start + n)

/-- Everything that comes before the server closes the connection. -/
partial def receive (socket : TCP.Socket.Client) (received : ByteArray) : Async ByteArray := do
  match ← socket.recv? 65536 with
  | some bytes => receive socket (received ++ bytes)
  | none => return received

def addressOf (u : Url) (ip : Net.IPAddr) : Net.SocketAddress :=
  match ip with
  | .v4 addr => .v4 ⟨addr, UInt16.ofNat u.port⟩
  | .v6 addr => .v6 ⟨addr, UInt16.ofNat u.port⟩

def talk (r : Request) : Async Reply := do
  let host := String.ofList (r.url.host.toList.filter fun c => c ≠ '[' && c ≠ ']')
  match (← DNS.getAddrInfo host r.url.port.repr)[0]? with
  | none => return .broken
  | some ip =>
    let socket ← TCP.Socket.Client.mk
    socket.connect (addressOf r.url ip)
    socket.send r.message
    return Reply.ofMessage (← receive socket .empty).toList

/-- One request and its reply, within so many seconds. Encrypted connections cannot be made. -/
def exchange (seconds : Nat) (r : Request) : IO Reply := do
  if r.url.secure then return .broken
  let givenUp : Async Reply := do
    sleep ⟨seconds * 1000⟩
    return .broken
  try
    (Async.race (talk r) givenUp).block
  catch _ => return .broken

def save (o : Outcome) : IO Unit := do
  match o.database with
  | some (path, rows) =>
    if !Database.isPassing path then IO.FS.writeBinFile path ⟨rows.toFile.toArray⟩
  | none => return

/-- Runs the call on the replies so far and asks for the next one, until none is missing. What
would be left if no reply came any more is saved on the way. -/
partial def converse (w : World) (i : Invocation) (seconds : Nat) (known : Replies) :
    IO Outcome := do
  let o := i.run { w with network := known.network }
  save o
  match known.next? o.told.trace with
  | none => return o
  | some e =>
    let reply ← match Client.requestOf? o.endpoint e with
      | some request => exchange seconds request
      | none => pure .broken
    converse w i seconds (known.add e reply)

def usage : String :=
  "Compose and submit field reports offline

Usage: fieldreport [OPTIONS] <COMMAND>

Commands:
  stage <FILES>...                     Normalize photos and keep them in the local stock
  stock list | remove <ID> | clear     Inspect or prune the local photo stock
  draft show | discard                 Inspect or discard the saved draft
  submit [REPORT] [--stores <STORES>]  Compose a report and send it
  help                                 Print this message

Options:
  -c, --config <CONFIG>      Path to the configuration file [default: fieldreport.toml]
      --endpoint <ENDPOINT>  Override the API endpoint from the configuration
  -h, --help                 Print help
  -V, --version              Print version"

def tell (o : Outcome) : IO Unit := do
  for line in o.told.output do
    IO.println line
  for line in o.told.notes do
    IO.eprintln line
  match o.told.result with
  | .ok _ => return
  | .error e =>
    IO.eprintln ("Error: " ++ e.code?.getD "" ++ "\n  × " ++ e.message)
    match e.help? with
    | some help => IO.eprintln ("  help: " ++ help)
    | none => return

def call (environment : List Variable) (i : Invocation) : IO UInt32 := do
  let millis ← millisNow
  let w ← lookAround
    { environment := environment, look := fun _ => .absent
      now := (Timestamp.ofMillis? millis).getD epoch, fresh := ← freshIds millis
      network := Replies.network {}, codec := Picture.headerCodec } i
  let seconds := match i.settings w with
    | .ok settings => settings.api.timeoutSecs
    | .error _ => 0
  let o ← converse w i seconds {}
  tell o
  return o.exitCode.toUInt32

end SiteReport.Program

def main (args : List String) : IO UInt32 := do
  let environment ← SiteReport.Program.environment
  let valueOf? := fun name => (environment.find? (·.name == name)).map (·.value)
  match SiteReport.Invocation.read valueOf? args with
  | .ok i => SiteReport.Program.call environment i
  | .error .help =>
    IO.println SiteReport.Program.usage
    return 0
  | .error .version =>
    IO.println "fieldreport 0.1.0"
    return 0
  | .error .wrong =>
    IO.eprintln SiteReport.Program.usage
    return 2
