import DualPhy.CommandLine.Process
import DualPhy.CommandLine.Waiting
import DualPhy.Http.Client
import DualPhy.Http.Exchange
import Std.Async.DNS
import Std.Async.TCP
import Std.Async.Timer

/-!
# The program

A run is determined by its arguments, the files it reads, the replies it gets
and the keys that are pressed. The program carries it out as far as the replies
and keys at hand allow, shows the events that are new, gets what the run is
waiting for, and carries it out again.
-/

namespace DualPhy
namespace CommandLine

/-- Send a request and collect the bytes that come back. -/
def exchange (address : Address) (request : Request) : Std.Async.Async ByteArray := do
  let hosts ← Std.Async.DNS.getAddrInfo address.host (toString address.port.toNat)
  let some host := hosts[0]? | throw (IO.userError "no such host")
  let place :=
    match host with
    | .v4 number => Std.Net.SocketAddress.v4 ⟨number, address.port⟩
    | .v6 number => Std.Net.SocketAddress.v6 ⟨number, address.port⟩
  let client ← Std.Async.TCP.Socket.Client.mk
  client.connect place
  client.send (request.text address.host).toUTF8
  let mut bytes := ByteArray.empty
  repeat
    match ← client.recv? 65536 with
    | some more => bytes := bytes ++ more
    | none => break
  return bytes

/-- Wait, then give up. -/
def giveUp (milliseconds : UInt64) : Std.Async.Async ByteArray := do
  let sleep ← Std.Async.Sleep.mk (Std.Time.Millisecond.Offset.ofNat milliseconds.toNat)
  sleep.wait
  throw (IO.userError "timed out")

/-- The reply to a request; any failure counts as a lost connection. -/
def reply (timeout : UInt64) (request : Request) : IO Reply := do
  match Address.read? request.url with
  | none => return .lost
  | some address =>
      try
        let bytes ← (Std.Async.Async.race (exchange address request) (giveUp timeout)).block
        return .ofBytes bytes
      catch _ => return .lost

/-- Read a file. -/
def fileText (path : String) : IO (Except FileError String) := do
  try
    return decodeFile (← IO.FS.readBinFile path)
  catch error =>
    return .error (match error with
      | .noFileOrDirectory .. => .notFound
      | .inappropriateType .. => .isDirectory
      | error => .other (toString error))

/-- Show an event. -/
def showEvent (filter : LogFilter) : Event → IO Unit
  | .log line => if filter.shows line then IO.eprintln line.text else return ()
  | .print text => do
      IO.print text
      (← IO.getStdout).flush
  | .pause milliseconds => IO.sleep (.ofNat milliseconds.toNat)
  | .request _ => return ()
  | .prompt prompt => prompt.lines.forM IO.eprintln
  | .barClosed _ bar => do
      if ← (← IO.getStderr).isTty then
        IO.eprintln (toString bar.position.toNat ++ "/" ++ toString bar.total.toNat ++
          " calls " ++ bar.message)

/-- The keys of the next line on standard input. -/
def readKeys (prompt : Prompt) : IO (List Key) := do
  let line ← (← IO.getStdin).getLine
  if line.isEmpty then return [.failure]
  else return prompt.keys (line.toList.filter fun letter => letter ≠ '\n' ∧ letter ≠ '\r')

/-- Carry out a run, however often it has to wait. -/
partial def carryOut
    (invocation : Invocation)
    (files : String → Except FileError String)
    (filter : LogFilter)
    (intakes : Intakes) :
    IO UInt32 := do
  let client : HttpClient :=
    { route := Route.toAnyHost, replies := intakes.replies, otherwise := none }
  let surroundings : Surroundings :=
    { fileText := files, keys := intakes.keys, patience := intakes.replies.length + 2 }
  let report := run surroundings invocation (Tracked.fresh client Controller.barId)
  let (events, want) := intakes.want report
  (events.drop intakes.shown).forM (showEvent filter)
  let intakes := { intakes with shown := events.length }
  match want with
  | .reply request => do
      let reply ← reply invocation.settings.timeout request
      carryOut invocation files filter { intakes with replies := intakes.replies ++ [reply] }
  | .keys prompt => do
      let keys ← readKeys prompt
      carryOut invocation files filter { intakes with keys := intakes.keys ++ keys }
  | .nothing =>
      match report.outcome with
      | .failed error => do
          showEvent filter (.log ⟨.program, .error, error.message⟩)
          return 1
      | _ => return 0

/-- The message for a command line that is not carried out. -/
def usageMessage : Usage → String
  | .version => banner
  | _ => "usage: phyctl [--url <url>] [-p <profile>] [--timeout-ms <ms>] [--strict] [-v] <" ++
      "|".intercalate subcommandNames ++ ">"

/-- Carry out the arguments of the program. -/
def start (arguments : List String) : IO UInt32 := do
  match parse arguments with
  | .error usage => do
      if usage.exitCode = 0 then IO.println (usageMessage usage)
      else IO.eprintln (usageMessage usage)
      return .ofNat usage.exitCode
  | .ok invocation => do
      let file ← invocation.settings.profile.mapM fileText
      let filter := LogFilter.choose (← IO.getEnv "RUST_LOG") invocation.settings.verbose
      carryOut invocation (fun _ => file.getD (.error .notFound)) filter ⟨[], [], 0⟩

end CommandLine
end DualPhy

/-- Run the program. -/
def main (arguments : List String) : IO UInt32 :=
  DualPhy.CommandLine.start arguments
