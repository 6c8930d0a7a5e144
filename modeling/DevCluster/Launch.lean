import DevCluster.Application
import DevCluster.Arguments.Invocation
import DevCluster.Diagnostics.Log
import DevCluster.Machine

/-!
Runs of the program on a machine: what is written to both outputs, which programs are run, and how
the run ends.
-/

namespace DevCluster

structure Trace where
  stdout : List UInt8 := []
  stderr : List UInt8 := []
  calls : List (List String) := []
  spans : List Span := []
deriving DecidableEq, Repr

namespace Trace

def writeOctets (trace : Trace) (channel : Channel) (octets : List UInt8) : Trace :=
  match channel with
  | .stdout => { trace with stdout := trace.stdout ++ octets }
  | .stderr => { trace with stderr := trace.stderr ++ octets }

def write (trace : Trace) (channel : Channel) (text : String) : Trace :=
  trace.writeOctets channel text.toUTF8.toList

/-- A program's own output, which goes where the run's output goes. -/
def pass (trace : Trace) (conduct : Conduct) : Trace :=
  { trace with
    stdout := trace.stdout ++ conduct.stdout
    stderr := trace.stderr ++ conduct.stderr }

def log (trace : Trace) (text : Option String) : Trace :=
  match text with
  | some text => trace.write .stderr text
  | none => trace

def note (trace : Trace) (log : Log) (event : Event) : Trace :=
  trace.log (log.written? trace.spans event)

def say (trace : Trace) (log : Log) (line : Line) : Trace :=
  (trace.log (log.writtenOfLine? trace.spans line)).write line.channel line.print

def call (trace : Trace) (command : Command) : Trace :=
  { trace with calls := trace.calls ++ [Path.base command.program :: command.arguments] }

def capture (trace : Trace) (log : Log) (command : Command) (conduct : Conduct) : Answer × Trace :=
  let output : Output := {
    code := conduct.code
    stdout := String.ofList (Text.decodeLossy conduct.stdout)
    stderr := String.ofList (Text.decodeLossy conduct.stderr) }
  match conduct.interrupts with
  | some _ => (.interrupted, trace)
  | none => (.ended output, trace.note log (.captureEnded command.program output))

def runAttached (trace : Trace) (conduct : Conduct) : Answer × Trace :=
  match conduct.interrupts with
  | some _ => (.interrupted, trace.pass conduct)
  | none => (.ended { code := conduct.code }, trace.pass conduct)

/-- A program that has been interrupted gets a moment to end by itself, then it is killed. -/
def runForeground (trace : Trace) (log : Log) (command : Command) (conduct : Conduct) :
    Answer × Trace :=
  match conduct.interrupts with
  | none => (.ended { code := conduct.code }, trace.pass conduct)
  | some lingering =>
    let last := match lingering with
      | .hangs => Event.foregroundKilled command.program
      | .ends => Event.foregroundLeft command.program conduct.code
    (.interrupted,
      ((trace.pass conduct).note log (.foregroundInterrupted command.program)).note log last)

def run (trace : Trace) (machine : Machine) (log : Log) (mode : Mode) (command : Command) :
    Answer × Trace :=
  let announced := trace.note log (match mode with
    | .capture => .captureStarted command
    | .attached => .attachedStarted command
    | .foreground => .foregroundStarted command)
  match machine.start command with
  | .error fault => (.failed fault, announced)
  | .ok conduct =>
    let called := announced.call command
    match mode with
    | .capture => called.capture log command conduct
    | .attached => called.runAttached conduct
    | .foreground => called.runForeground log command conduct

end Trace

/-- A machine as the host of a run. Interrupts come from programs only, while they run. -/
def Machine.host (machine : Machine) (log : Log) : Host Trace where
  perform
    | .settingsFile, trace => (machine.settingsFile, trace)
    | .lookUp name, trace => (machine.environment name, trace)
    | .locate tool, trace => (machine.locate tool, trace)
    | .run mode command, trace => trace.run machine log mode command
    | .say line, trace => ((), trace.say log line)
    | .note event, trace => ((), trace.note log event)
    | .enter span, trace => ((), { trace with spans := trace.spans ++ [span] })
    | .leave, trace => ((), { trace with spans := trace.spans.dropLast })
    | .takeInterrupt, trace => (false, trace)
    | .write text, trace => ((), trace.write .stdout text)

/-- How a run ends: by an exit code, or by the interrupt that it does not handle. -/
inductive Ending
  | exited (code : Int)
  | interrupted
deriving DecidableEq, Repr

/-- How the program is called: with all its words, or by a short name for one action. -/
inductive EntryPoint
  | full (words : List String)
  | short (action : Action)
deriving DecidableEq, Repr

def Machine.invoke (machine : Machine) (clock : Clock) (invocation : Arguments.Invocation) :
    Ending × Trace :=
  let (filter, complaints) := Log.filterFor machine.environment invocation.logLevel
  let style := Log.styleFor machine.environment invocation.logFormat
  let log : Log := { filter, style, clock }
  let trace := complaints.foldl (fun trace complaint => trace.write .stderr (complaint ++ "\n")) {}
  match (Application.run invocation.action).run (machine.host log) trace with
  | (.ok code, trace) => (.exited code, trace)
  | (.error .interrupted, trace) => (.interrupted, trace)
  | (.error (.failed failure), trace) => (.exited failure.code, trace)

/-- A run of the program. A command line that asks for no action is answered at once. -/
def Machine.launch (machine : Machine) (clock : Clock) : EntryPoint → Ending × Trace
  | .short action => machine.invoke clock { logLevel := "info", logFormat := .auto, action }
  | .full words =>
    match Arguments.Invocation.ofWords words with
    | .ok invocation => machine.invoke clock invocation
    | .error complaint =>
      let message := complaint.message (Arguments.programName? words)
      let octets := message.octets machine.environment.forcesColours
      (.exited complaint.code, ({} : Trace).writeOctets complaint.channel octets)

end DevCluster
