import DevCluster.Environment
import DevCluster.Routine
import DevCluster.Text.Utf8

/-!
Machines as far as a run depends on them: directories, files, programs and what each does, and how
paths and names of programs are looked up.
-/

namespace DevCluster

/-- What a program does after it has interrupted the one that runs it. -/
inductive Lingering
  | hangs
  | ends
deriving DecidableEq, Repr

structure Conduct where
  stdout : List UInt8 := []
  stderr : List UInt8 := []
  interrupts : Option Lingering := none
  code : ExitCode := some 0
deriving DecidableEq, Repr

structure Program where
  executable : Bool
  conduct : List String → Conduct

inductive Node
  | directory
  | file (octets : List UInt8)
  | program (program : Program)

inductive PathFault
  | missing
  | notDirectory
  | denied
  | tooLong
deriving DecidableEq, Repr

def PathFault.text : PathFault → String
  | missing => "No such file or directory (os error 2)"
  | notDirectory => "Not a directory (os error 20)"
  | denied => "Permission denied (os error 13)"
  | tooLong => "File name too long (os error 36)"

structure Machine where
  /-- By the names that lead to it from the root. -/
  nodes : List (List String × Node)
  present : List String
  environment : Environment
  /-- The home directory where the environment names none. -/
  accountHome : String

namespace Machine

/-- What is at a place. All places on the way to something are directories. -/
def nodeAt? (machine : Machine) (place : List String) : Option Node :=
  match machine.nodes.lookup place with
  | some node => some node
  | none =>
    if (machine.present :: machine.nodes.map (·.1)).any place.isPrefixOf then some .directory
    else none

def longestName : Nat := 255

def longestPath : Nat := 4095

/-- Goes on from a place. Every step but the last has to lead to a directory. -/
def walk (machine : Machine) : (place steps : List String) → Except PathFault Node
  | place, [] =>
    match machine.nodeAt? place with
    | some node => .ok node
    | none => .error .missing
  | place, step :: steps =>
    match machine.nodeAt? place with
    | none => .error .missing
    | some .directory =>
      if Path.isIdle step then machine.walk place steps
      else if longestName < step.utf8ByteSize then .error .tooLong
      else if step = ".." then machine.walk place.dropLast steps
      else machine.walk (place ++ [step]) steps
    | some _ => .error .notDirectory

def find (machine : Machine) (path : String) : Except PathFault Node :=
  if path.isEmpty then .error .missing
  else if longestPath < path.utf8ByteSize then .error .tooLong
  else match Path.names path with
    | "" :: steps => machine.walk [] steps
    | steps => machine.walk machine.present steps

def programAt (machine : Machine) (path : String) : Except PathFault Program :=
  match machine.find path with
  | .error fault => .error fault
  | .ok (.program program) => if program.executable then .ok program else .error .denied
  | .ok _ => .error .denied

/-- The first program of a name that can be run. If there is none, one that must not be run is a
better reason than that the last directory has none. A path that is too long ends the search. -/
def search (machine : Machine) (name : String) (fault : PathFault) :
    List String → Except PathFault Program
  | [] => .error fault
  | directory :: others =>
    match machine.programAt (Path.join directory name) with
    | .ok program => .ok program
    | .error .tooLong => .error .tooLong
    | .error reason => machine.search name (if fault = .denied then .denied else reason) others

def programFor (machine : Machine) (name : String) : Except PathFault Program :=
  if name.isEmpty then .error .missing
  else if name.toList.contains '/' then machine.programAt name
  else if longestName < name.utf8ByteSize then .error .tooLong
  else machine.search name .missing machine.environment.searchPath

/-- A directory of the search path, where a tilde stands for the home directory. -/
def expandHome (machine : Machine) (directory : String) : String :=
  match Path.names directory with
  | "~" :: steps =>
    (steps.filter (!Path.isIdle ·)).foldl Path.join (machine.environment.home machine.accountHome)
  | _ => directory

def locate (machine : Machine) (name : String) : Option String :=
  let directories := machine.environment.searchPath.map machine.expandHome
  (directories.map (Path.join · name)).find? fun path => (machine.programAt path).isOk

/-- What the file of a program holds, which is a script. -/
def script : String := "#!/bin/sh\nexit\n"

def settingsFile (machine : Machine) : SettingsFile where
  path := machine.environment.settingsPath machine.accountHome
  content := match machine.find (machine.environment.settingsPath machine.accountHome) with
    | .error _ => .absent
    | .ok .directory => .unreadable "Is a directory (os error 21)"
    | .ok (.file octets) =>
      match Text.decode? octets with
      | some text => .text (String.ofList text)
      | none => .unreadable "stream did not contain valid UTF-8"
    | .ok (.program _) => .text script

def start (machine : Machine) (command : Command) : Except RunFault Conduct :=
  let refuse (reason : String) : Except RunFault Conduct :=
    .error { stage := .start, program := command.program, reason }
  if command.words.any (·.toList.contains '\x00') then refuse "nul byte found in provided data"
  else match machine.programFor command.program with
    | .ok program => .ok (program.conduct command.arguments)
    | .error fault => refuse fault.text

end Machine

end DevCluster
