import AdmissionLedger.Http.Endpoint
import AdmissionLedger.Log.Line
import AdmissionLedger.Service.Lifecycle
import AdmissionLedger.Template.Object
import Std.Time.DateTime.Timestamp

/-!
# The command line

Reviews are read from standard input, one to a line, and answered on standard output
in the same way; log lines go to standard error.  Settings come from the environment
and rules from files at the mount path.

Nothing is sent from here: every exchange of an alert channel fails, and says so in
the log.
-/

namespace AdmissionLedger

/-- The string of a text; a surrogate becomes a null character. -/
def Text.toString (t : Text) : String :=
  String.ofList (t.map CodePoint.toChar)

/-- The variables of the environment that are settings. -/
def readEnvironment : IO Environment :=
  Environment.keys.filterMapM fun key => do
    let name := Environment.fullName key
    let value ← IO.getEnv (Text.toString name)
    return value.map fun value => (name, Text.ofString value)

/-- The bytes of a file, if it can be read. -/
def readFile? (path : String) : IO (Option Bytes) := do
  try
    let bytes ← IO.FS.readBinFile path
    return some bytes.toList
  catch _ => return none

/-- What is mounted at a path, if anything is. -/
def readMount (path : String) : IO (Option Mount) := do
  let read (file : PolicyFile) : IO (Option Bytes) :=
    readFile? (path ++ "/" ++ Text.toString file.name)
  let ignore ← read .ignore
  let block ← read .block
  return if ignore.isNone && block.isNone then none else some (.files ignore block)

/-- The time in nanoseconds from the epoch. -/
def readClock : IO Int := do
  let now ← Std.Time.Timestamp.now
  return now.toNanosecondsSinceUnixEpoch.toInt

/-- Nothing can be reached. -/
def nowhere : Outside where
  network := { replies := ⟨.failed "network is unreachable", []⟩ }
  mailHost := { failure := some (Text.ofString "connect", .connection "network is unreachable") }

/-- What is known of values here; they have no places in memory. -/
def placeless : Template.Reflection :=
  .standard (fun _ => "0x0") (Nat.pow 10 10)

/-- Writes the entries of a log that are serious enough. -/
def writeLog (level : Log.Level) (log : List Log.Entry) : IO Unit := do
  let now ← readClock
  let time := match Timestamp.ofNanoseconds now with
    | .ok t => t.iso
    | .error _ => []
  let logger : Log.Logger := { threshold := level.severity, component := "app" }
  for line in log.filterMap (logger.line? time) do
    IO.eprintln (Text.toString (line.write .ascii))

/-- The level at which a service logs. -/
def Service.level (s : Service) : Log.Level :=
  (s.settings.map Settings.level).getD .info

/-- The decision about a posted body. -/
def Service.decide (body : Bytes) (s : Service) : Logged (Except Unhandled Decision × Service) :=
  match s.review body with
  | some reviewed => do
    let (decision, s) ← reviewed
    return (.ok decision, s)
  | none => return (.error (.broken "there are no rules"), s)

/-- The bytes with which a request is answered. -/
def Served.bytes (served : Served) : Bytes :=
  match served.response with
  | .ok { content := .document _ bytes, .. } => bytes
  | _ => []

/-- Answers reviews until there are no more. -/
partial def serveLines (input output : IO.FS.Stream) (s : Service) : IO Service := do
  let line ← input.getLine
  if line.isEmpty then return s
  let request : HttpRequest := ⟨Endpoint.validate.method, Endpoint.validate.path,
    (line.trimAscii.toString.toUTF8).toList⟩
  let now ← readClock
  let served := request.serve s.relay.counts Service.decide { s with clock := ⟨now, []⟩ }
  let (served', s) := served.value
  writeLog s.level served.log
  output.write ⟨(served'.bytes ++ [0x0A]).toArray⟩
  output.flush
  serveLines input output s

/-- Starts a service, lets it answer reviews, and stops it.  The answer is the exit status. -/
def runService : IO UInt32 := do
  let environment ← readEnvironment
  let mount ← readMount (Text.toString (environment.read "PATTERNS_PATH" "/etc/patterns"))
  let now ← readClock
  let idle := Service.idle placeless 1000 environment nowhere ⟨now, []⟩
  let started := { idle with mount := mount }.start true
  let (result, s) := started.value
  writeLog s.level started.log
  match result with
  | .error e =>
    IO.eprintln (Text.toString e.message)
    return 1
  | .ok () =>
    let s ← serveLines (← IO.getStdin) (← IO.getStdout) s
    writeLog s.level s.stop.log
    return 0

end AdmissionLedger

def main : IO UInt32 :=
  AdmissionLedger.runService
