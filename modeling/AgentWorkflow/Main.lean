import AgentWorkflow.Cli.Execution
import AgentWorkflow.Http.Replay
import AgentWorkflow.Http.Wire
import AgentWorkflow.Ticks
import Std.Async.DNS
import Std.Async.TCP

/-!
# The command line program

Looks at the machine, carries out what the command line asks for, and says what
came of it. Everything is decided elsewhere: this module reads the files and
variables that a command may look at, carries requests to servers and answers
back, prints, and waits between two polls.
-/

namespace AgentWorkflow.Cli

open Std.Async

/-! ## The machine -/

/-- The values of some variables, as far as they are set. -/
def readVariables (names : List String) : IO (List (String × String)) :=
  names.filterMapM fun name => return (← IO.getEnv name).map (name, ·)

/-- What a path leads to: nothing, or something that may be a text. -/
def contents (path : String) : IO (Option (Option String)) := do
  let isThere ← try
      let _ ← IO.FS.Handle.mk path .read
      pure true
    catch _ => pure false
  try
    return some (String.fromUTF8? (← IO.FS.readBinFile path))
  catch _ => return if isThere then some none else none

/-- **Looks at all that a command line may need.** -/
def look (words : List String) : IO Surroundings := do
  let known ← readVariables ["HOME", "FLOWDECK_BASE_URL", "FLOWDECK_API_KEY"]
  let env : Environment := fun name => known.lookup name
  let paths := match Request.read env words with
    | .ok (.invocation i) => i.files env
    | _ => []
  let found ← paths.mapM fun path => return (path, ← contents path)
  let texts : List String := found.filterMap fun f => f.2.join
  let others ← readVariables (texts.flatMap fun text => Environment.names text.toList)
  return {
    env := fun name => (known ++ others).lookup name
    has := fun path => ((found.lookup path).join).isSome
    text? := fun path => ((found.lookup path).join).join }

/-! ## The network -/

/-- All bytes up to the end of a connection. -/
partial def receive (socket : TCP.Socket.Client) (before : ByteArray) : Async ByteArray := do
  match ← socket.recv? 65536 with
  | some bytes => receive socket (before ++ bytes)
  | none => return before

/-- Sends a request and waits for the end of the answer. -/
def ask (request : Http.Request) : Async Http.Answer := do
  let host := match request.url.host with
    | some (.long pieces) => Url.Host.piecesText pieces
    | some other => other.text
    | none => ""
  let port := (request.url.port.or (Url.ownPort? request.url.scheme)).getD 80
  let addresses ← DNS.getAddrInfo host (toString port)
  match addresses[0]? with
  | none => return .lost
  | some address =>
    let socket ← TCP.Socket.Client.mk
    socket.connect (match address with
      | .v4 addr => .v4 ⟨addr, port.toUInt16⟩
      | .v6 addr => .v6 ⟨addr, port.toUInt16⟩)
    socket.send (ByteArray.mk request.wire.toArray)
    return Http.Answer.ofWire (← receive socket ByteArray.empty).toList

/-- The answer to a request. There is none over connections that are to be
secret, and none if anything fails. -/
def answer (request : Http.Request) : IO Http.Answer := do
  if request.url.scheme ≠ "http" then return .lost
  try (ask request).block catch _ => return .lost

/-- **Runs a computation until all its requests are answered.** -/
partial def settle {α : Type} (run : Http.Replay → α × Http.Replay)
    (answers : List Http.Answer := []) : IO α := do
  match run ⟨answers, none⟩ with
  | (_, ⟨_, some request⟩) => settle run (answers ++ [← answer request])
  | (a, ⟨_, none⟩) => return a

/-! ## The program -/

/-- Prints some text at once. -/
def print (s : String) : IO Unit := do
  let out ← IO.getStdout
  out.putStr s
  out.flush

/-- Follows the first live run until the program is stopped. -/
partial def follow (rt : AgentRuntime Http.Replay) (monitor : Monitor)
    (step : Monitor → Asking Http.Replay Monitor) (ticks : Interval) : IO Unit := do
  let (monitor, events) ← settle fun s =>
    let p := step monitor s
    ((p.value.1, p.events), p.value.2)
  print (Outcome.text (events.flatMap eventLines))
  let now ← IO.monoMsNow
  let (next, ticks) := ticks.next now
  IO.sleep (next - now).toUInt32
  follow rt monitor (fun m => return (← m.tick rt).1) ticks

/-- Writes the file that an outcome asks for. -/
def write (outcome : Outcome) : IO Outcome := do
  match outcome.file with
  | none => return outcome
  | some (path, text) =>
    try
      IO.FS.writeFile path text
      return outcome
    catch _ => return outcome.unwritten

/-- Says what came of a command. -/
def conclude (outcome : Outcome) : IO UInt32 := do
  let outcome ← write outcome
  print outcome.output
  (← IO.getStderr).putStr outcome.complaint
  return outcome.exitCode.toUInt32

end AgentWorkflow.Cli

open AgentWorkflow Cli in
/-- Carries out the words of a command line. -/
def main (words : List String) : IO UInt32 := do
  let surroundings ← look words
  match watching? surroundings words with
  | some config =>
    let rt := Http.runtime config.runtime Http.Replay.link
    let ticks := Interval.start config.sync.pollInterval (← IO.monoMsNow)
    follow rt (Monitor.ofConfig config) (fun m => m.start rt) ticks
    return 0
  | none =>
    conclude (← settle fun s => execute surroundings Http.Replay.link 0 words s)
