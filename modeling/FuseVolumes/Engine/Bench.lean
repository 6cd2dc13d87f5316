import FuseVolumes.Engine.Fuse
import FuseVolumes.Host.Script
import FuseVolumes.Host.Kernel
import FuseVolumes.Host.Socket
import FuseVolumes.Reservations

/-! Surroundings for work on the engine: a host, names in use, and tools that are either run
or replaced by prepared replies, with a record of the commands they were given. -/

namespace FuseVolumes.Engine

/-- A command with the content of its key file at the time. -/
structure Command where
  program : String
  arguments : List String
  key : Option String
  deriving DecidableEq, Repr

/-- What a tool is to answer. -/
inductive Reply
  | ran (output : Output)
  | failed (fault : Fault)
  deriving DecidableEq, Repr

def Reply.result : Reply → Except Fault Output
  | .ran output => .ok output
  | .failed fault => .error fault

/-- The reply once no prepared one is left. -/
def Reply.success : Reply := .ran ⟨some 0, ""⟩

structure Bench where
  scene : Host.Scene
  reservations : Reservations
  replies : List Reply
  commands : List Command
  deriving Repr

namespace Bench

def start : Bench := ⟨⟨.base, []⟩, .empty, [], []⟩

def log (b : Bench) (event : Event) : Bench := { b with scene := b.scene.log event }

/-- The key file among the arguments of a tool. -/
def keyFile? : List String → Option String
  | _ :: _ :: "-k" :: file :: _ => some file
  | _ => none

/-- The command as it is recorded. -/
def record (b : Bench) (program : String) (arguments : List String) : Command :=
  ⟨program, arguments, (keyFile? arguments).bind fun file => (b.scene.tree.readText file).toOption⟩

/-- How a tool comes to its reply. -/
abbrev Runner := String → List String → Bench → Except Fault Output × Bench

/-- Records the command and takes the next reply. -/
def recorded : Runner := fun program arguments b =>
  let b' := { b with commands := b.commands ++ [b.record program arguments] }
  match b.replies with
  | [] => (Reply.success.result, b')
  | reply :: replies => (reply.result, { b' with replies })

/-- Runs the program of the host. -/
def hosted : Runner := fun program arguments b => (b.scene.tree.spawn program arguments, b)

/-- How a mount is forwarded. -/
abbrev Forwarder := String → MountRequest → Bench → Except ForwardError String × Bench

def handle (runner : Runner) (forwarder : Forwarder) : Program.Handler interface Bench
  | .reserve name, b =>
    let (taken, reservations) := b.reservations.tryAcquire name
    (taken, { b with reservations })
  | .release name, b => ((), { b with reservations := b.reservations.release name })
  | .log event, b => ((), b.log event)
  | .makeDirectories path, b =>
    let (result, scene) := b.scene.change (b.scene.tree.makeDirectories path)
    (result, { b with scene })
  | .stageKey directory key, b =>
    let (result, tree) := b.scene.tree.stageKey directory key Credentials.keyFileStart
    (result, { b with scene := { b.scene with tree } })
  | .dropKey file, b => ((), { b with scene := { b.scene with tree := b.scene.tree.dropFile file } })
  | .run program arguments, b => runner program arguments b
  | .forward endpoint request, b => forwarder endpoint request b

/-- Whoever listens on the endpoint of a forwarded mount serves no mounts. -/
def strangers : Forwarder := fun endpoint _ b =>
  (.error (if b.scene.tree.answers endpoint then .refused .unserved else .unreachable), b)

/-- The mount proxy takes forwarded mounts if it listens on the endpoint. -/
def proxied (runner : Runner) : Forwarder := fun endpoint request b =>
  if b.scene.tree.answers endpoint then
    let (result, b) := (Fuse.serve request).run.run (handle runner strangers) b
    (result.mapError fun status => .refused status.delivered, b)
  else (.error .unreachable, b)

/-- Runs work with tools and a forwarder of one kind. -/
def runWith {ε α : Type} (runner : Runner) (forwarder : Forwarder) (b : Bench)
    (work : Work ε α) : Except ε α × Bench :=
  Program.run (handle runner forwarder) (ExceptT.run work) b

/-- Runs work with recorded tools, also behind a mount proxy. -/
def run {ε α : Type} (b : Bench) (work : Work ε α) : Except ε α × Bench :=
  b.runWith recorded (proxied recorded) work

/-- Runs work with the programs of the host, where no mount proxy is. -/
def runHosted {ε α : Type} (b : Bench) (work : Work ε α) : Except ε α × Bench :=
  b.runWith hosted strangers work

/-- Gives the tools new replies and forgets what they did. -/
def prepare (b : Bench) (replies : List Reply) : Bench := { b with replies, commands := [] }

end Bench

end FuseVolumes.Engine
