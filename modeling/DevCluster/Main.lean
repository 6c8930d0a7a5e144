import DevCluster.Application
import DevCluster.Arguments.Invocation
import DevCluster.Diagnostics.Log
import DevCluster.Text.Utf8

/-!
The command line. Commands are carried out by the caller: each is announced on standard output with
its mode and its words, and the caller answers on a line of standard input with the exit code and
the words that the command wrote, with `signal`, with `interrupt`, or with the reason why the
command could not be started.
-/

namespace DevCluster.Main

structure Setting where
  log : Log
  environment : Environment
  accountHome : String

def padNumber (width : Nat) (fill : Char) (number : Nat) : String :=
  let digits := toString number
  String.ofList (List.replicate (width - digits.length) fill) ++ digits

def stamp (nanoseconds : Nat) : String :=
  let seconds := padNumber 4 ' ' (nanoseconds / 1000000000)
  let fraction := padNumber 9 '0' (nanoseconds % 1000000000)
  s!"{seconds}.{fraction}s"

def readSettings (path : String) : IO SettingsFile := do
  try
    let octets ← IO.FS.readBinFile path
    match Text.decode? octets.toList with
    | some text => pure { path, content := .text (String.ofList text) }
    | none => pure { path, content := .unreadable "stream did not contain valid UTF-8" }
  catch
    | .noFileOrDirectory .. => pure { path, content := .absent }
    | .inappropriateType _ 20 _ => pure { path, content := .absent }
    | .inappropriateType _ 21 _ =>
      pure { path, content := .unreadable "Is a directory (os error 21)" }
    | .permissionDenied .. =>
      pure { path, content := .unreadable "Permission denied (os error 13)" }
    | other => pure { path, content := .unreadable (toString other) }

def locate (environment : Environment) (tool : String) : IO (Option String) :=
  environment.searchPath.findSomeM? fun directory => do
    let path := Path.join directory tool
    try
      let _ ← IO.FS.Handle.mk path .read
      pure (some path)
    catch _ => pure none

def modeName : Mode → String
  | .capture => "capture"
  | .attached => "attached"
  | .foreground => "foreground"

def runThroughCaller (mode : Mode) (command : Command) : IO Answer := do
  let stdout ← IO.getStdout
  stdout.putStrLn s!"{modeName mode} {showTexts command.words}"
  stdout.flush
  let answer := trimmed (← (← IO.getStdin).getLine)
  let words := answer.splitOn " "
  match answer, words.head?.bind String.toInt? with
  | "interrupt", _ => pure .interrupted
  | "signal", _ => pure (.ended { code := none })
  | _, some code =>
    pure (.ended { code := some code, stdout := String.join (words.tail.map (· ++ "\n")) })
  | reason, none => pure (.failed { stage := .start, program := command.program, reason })

def writeOctetsTo (channel : Channel) (octets : List UInt8) : IO Unit := do
  let stream ← match channel with
    | .stdout => IO.getStdout
    | .stderr => IO.getStderr
  stream.write (ByteArray.mk octets.toArray)
  stream.flush

def writeTo (channel : Channel) (text : String) : IO Unit :=
  writeOctetsTo channel text.toUTF8.toList

/-- Writes to the log what comes of a log with the present time. -/
def writeLog (setting : Setting) (started : Nat) (entry : Log → Option String) : IO Unit := do
  let passed := (← IO.monoNanosNow) - started
  let clock : Clock := { stamp := stamp passed, elapsed := toString (passed / 1000000) }
  match entry { setting.log with clock } with
  | some text => writeTo .stderr text
  | none => pure ()

def carryOut {α : Type} (setting : Setting) (started : Nat) :
    List Span → Routine α → IO (Except Stop α)
  | _, .done value => pure (.ok value)
  | _, .stopped why => pure (.error why)
  | spans, .ask .settingsFile next => do
    let file ← readSettings (setting.environment.settingsPath setting.accountHome)
    carryOut setting started spans (next file)
  | spans, .ask (.lookUp name) next =>
    carryOut setting started spans (next (setting.environment name))
  | spans, .ask (.locate tool) next => do
    let path ← locate setting.environment tool
    carryOut setting started spans (next path)
  | spans, .ask (.run mode command) next => do
    let answer ← runThroughCaller mode command
    carryOut setting started spans (next answer)
  | spans, .ask (.say line) next => do
    writeLog setting started (·.writtenOfLine? spans line)
    writeTo line.channel line.print
    carryOut setting started spans (next ())
  | spans, .ask (.note event) next => do
    writeLog setting started (·.written? spans event)
    carryOut setting started spans (next ())
  | spans, .ask (.enter span) next => carryOut setting started (spans ++ [span]) (next ())
  | spans, .ask .leave next => carryOut setting started spans.dropLast (next ())
  | spans, .ask .takeInterrupt next => carryOut setting started spans (next false)
  | spans, .ask (.write text) next => do
    writeTo .stdout text
    carryOut setting started spans (next ())

def variableNames : List String :=
  ["HOME", "PATH", "XDG_CONFIG_HOME", "NO_COLOR", "CLICOLOR_FORCE", "RUST_LOG"] ++
    Application.overrides

def readEnvironment : IO Environment := do
  let values ← variableNames.mapM fun name => return (name, ← IO.getEnv name)
  pure fun name => (values.lookup name).join

def invoke (invocation : Arguments.Invocation) : IO UInt32 := do
  let started ← IO.monoNanosNow
  let environment ← readEnvironment
  let (filter, complaints) := Log.filterFor environment invocation.logLevel
  let style := Log.styleFor environment invocation.logFormat
  let log : Log := { filter, style, clock := { stamp := "", elapsed := "" } }
  complaints.forM fun complaint => writeTo .stderr (complaint ++ "\n")
  let setting : Setting := { log, environment, accountHome := "/root" }
  match ← carryOut setting started [] (Application.run invocation.action) with
  | .ok code => pure code.toNat.toUInt32
  | .error _ => pure 130

end DevCluster.Main

def main (arguments : List String) : IO UInt32 := do
  let words := "lifeguard-dev" :: arguments
  match DevCluster.Arguments.Invocation.ofWords words with
  | .ok invocation => DevCluster.Main.invoke invocation
  | .error complaint => do
    let environment ← DevCluster.Main.readEnvironment
    let message := complaint.message (DevCluster.Arguments.programName? words)
    DevCluster.Main.writeOctetsTo complaint.channel (message.octets environment.forcesColours)
    pure complaint.code.toNat.toUInt32
