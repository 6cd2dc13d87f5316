import FuseVolumes.Logging.Filter
import FuseVolumes.Plugin.Launch

/-! Runs of the three programs, from the command line to the exit code. -/

namespace FuseVolumes.Plugin

open Node (Machine)

inductive Binary
  | controller
  | node
  | proxy
  deriving DecidableEq, Repr

namespace Binary

def all : List Binary := [controller, node, proxy]

def name : Binary → String
  | controller => "csi-controller"
  | node => "csi-node"
  | proxy => "fcfsfused-proxy"

def ofName? (name : String) : Option Binary := all.find? (·.name == name)

def options : Binary → List CommandLine.Spec
  | controller => CommandLine.controller
  | node => CommandLine.node
  | proxy => CommandLine.proxy

end Binary

/-- What a program is started with. An embedded one is a part of another program. An orchestrator
is there if the program can find the way to one. -/
structure Invocation where
  arguments : List String
  environment : Dict
  embedded : Bool
  orchestrator : Option Orchestrator.Session
  deriving Repr

/-- What became of a start. -/
inductive Start
  | stopped (stop : CommandLine.Stop)
  | failed (failure : Failure)
  | serving (server : Server)
  deriving Repr

/-- A program at work, or what is left of it. -/
structure Run where
  start : Start
  filter : LogFilter
  machine : Machine
  deriving Repr

/-- The part of a start that follows the command line. -/
def Binary.begin (b : Binary) (found : CommandLine.Matches) (i : Invocation) (m : Machine) :
    Except Failure Server × Machine :=
  match b with
  | .controller => startController found m
  | .node => startNode found i.embedded i.orchestrator m
  | .proxy => (beginProxy found).run m

namespace Run

/-- Starts a program. -/
def of (b : Binary) (i : Invocation) (m : Machine) : Run :=
  match CommandLine.parse b.options i.arguments i.environment with
  | .error stop => ⟨.stopped stop, ⟨[]⟩, m⟩
  | .ok found =>
    match LogFilter.ofSetting (i.environment.get? logVariable) (found.count "verbose") with
    | .error _ => ⟨.failed .splitCharacter, ⟨[]⟩, m⟩
    | .ok filter =>
      match b.begin found i (m.log (startEvent b.name Csi.version)) with
      | (.ok server, m) => ⟨.serving server, filter, m⟩
      | (.error failure, m) => ⟨.failed failure, filter, m⟩

/-- Makes a request of a program that serves. -/
def request (run : Run) (r : Request) : Option (Except Status Answer) × Run :=
  match run.start with
  | .serving server =>
    let (answer, machine) := server.answer r run.machine
    (some answer, { run with machine })
  | _ => (none, run)

/-- Tells a program to stop, by the number of a signal. -/
def signal (run : Run) (number : Nat) : Run :=
  match run.start with
  | .serving _ =>
    let event := (Event.warn .shutdown "Signalled").beside [("signal", toString number)]
    { run with machine := run.machine.log event }
  | _ => run

def exitCode (run : Run) : Int :=
  match run.start with
  | .stopped stop => stop.exitCode
  | .failed (.error _) => 1
  | .failed (.crash _) | .failed .splitCharacter => 101
  | .serving _ => 0

/-- The first line of the error that a program reports at its end. -/
def error? (run : Run) : Option String :=
  match run.start with
  | .failed (.error message) => some (Text.firstLine message)
  | _ => none

/-- The log. -/
def told (run : Run) : List Event := run.machine.bench.scene.events.filter run.filter.passes

end Run

end FuseVolumes.Plugin
