import FuseVolumes.Engine.Bench
import FuseVolumes.Node.Call

/-! A node as a state: mounts by path, calls that are to fail, names in use, and a record of
what was changed. Fuse mounts either succeed unless their volume is to fail, or are made by
the engine. -/

namespace FuseVolumes.Node

/-- An attempt to change the mounts. -/
inductive Act
  | makeDirectory (path : String)
  | bindMount (source target : String) (options : List String)
  | unmount (path : String)
  | fuseMount (volume : Volume) (target : String) (secrets : Dict)
  deriving DecidableEq, Repr

structure Machine where
  table : Mount.Table
  failures : Mount.Failures
  /-- What the fuse daemons of some volumes answer instead of mounting. -/
  refusals : List (String × Engine.Reply)
  acts : List Act
  bench : Engine.Bench
  deriving Repr

namespace Machine

/-- A machine with nothing mounted. -/
def ofBench (bench : Engine.Bench) : Machine := ⟨.empty, .none, [], [], bench⟩

def log (m : Machine) (event : Event) : Machine := { m with bench := m.bench.log event }

def record (m : Machine) (act : Act) : Machine := { m with acts := m.acts ++ [act] }

/-- The fault a call is to fail with. -/
def fault? (failures : List (String × Int)) (path : String) : Option Fault :=
  (failures.lookup path).map .errno

/-! ## The mount table -/

def isMountPoint (m : Machine) (path : String) : Except Fault Bool :=
  match fault? m.failures.isMountPoint path with
  | some fault => .error fault
  | none => m.table.isMountPoint path

def probe (m : Machine) (path : String) : Except Fault Unit :=
  match fault? m.failures.probe path with
  | some fault => .error fault
  | none => m.table.probe path

/-- The table gets this path alone: it knows of no directories above one. -/
def makeDirectory (m : Machine) (path : String) : Except Fault Unit × Machine :=
  let m := m.record (.makeDirectory path)
  match fault? m.failures.makeDir path with
  | some fault => (.error fault, m)
  | none => (.ok (), { m with table := m.table.addDir path })

/-- A mount that is refused its options is taken back, unless that fails as well. -/
def bindMount (m : Machine) (source target : String) (options : List String) :
    Except Mount.Error Unit × Machine :=
  let m := m.record (.bindMount source target options)
  let mounted := { m with table := m.table.mountHealthy target }
  match fault? m.failures.bindMount target, fault? m.failures.remount target,
    fault? m.failures.undo target with
  | some fault, _, _ => (.error (.bindMount source target fault), m)
  | none, some fault, none => (.error (.remount target options fault), m)
  | none, some fault, some _ => (.error (.remount target options fault), mounted)
  | none, none, _ => (.ok (), mounted)

def unmount (m : Machine) (path : String) : Except Mount.Error Unit × Machine :=
  let m := m.record (.unmount path)
  match fault? m.failures.unmount path with
  | some fault => (.error (.unmount path fault), m)
  | none => (.ok (), { m with table := m.table.removeMount path })

/-! ## Fuse mounts -/

/-- The error of a daemon that answers instead of mounting, unless it answers that all is
well. -/
def refusal (volume : Volume) : Engine.Reply → Engine.Error
  | .ran output => .failed .restart volume.name output
  | .failed fault => .spawn Engine.fuseTool fault

def fuseMount (m : Machine) (volume : Volume) (target : String) (secrets : Dict) :
    Except Engine.Error Unit × Machine :=
  let m := m.record (.fuseMount volume target secrets)
  match m.refusals.lookup volume.name with
  | some reply => (.error (refusal volume reply), m)
  | none => (.ok (), { m with table := m.table.mountHealthy target })

/-- A fuse mount made by the engine, which leaves no record among the acts. -/
def engineMount (runner : Engine.Bench.Runner)
    (work : Volume → String → Dict → Engine.Work Engine.Error Unit)
    (m : Machine) (volume : Volume) (target : String) (secrets : Dict) :
    Except Engine.Error Unit × Machine :=
  match m.bench.runWith runner Engine.Bench.strangers (work volume target secrets) with
  | (.error e, bench) => (.error e, { m with bench })
  | (.ok (), bench) => (.ok (), { m with bench, table := m.table.mountHealthy target })

/-! ## All calls -/

/-- How fuse mounts are made. -/
abbrev FuseMounter := Machine → Volume → String → Dict → Except Engine.Error Unit × Machine

def reserve (m : Machine) (name : String) : Bool × Machine :=
  let (taken, reservations) := m.bench.reservations.tryAcquire name
  (taken, { m with bench := { m.bench with reservations } })

def release (m : Machine) (name : String) : Machine :=
  { m with bench := { m.bench with reservations := m.bench.reservations.release name } }

/-- Removes a directory of the host; the table keeps what it knows of it. -/
def removeDirectory (m : Machine) (path : String) : Except Fault Unit × Machine :=
  let (result, scene) := m.bench.scene.attempt (m.bench.scene.tree.removeDirectory path)
  (result, { m with bench := { m.bench with scene } })

def handle (fuse : FuseMounter) : Program.Handler interface Machine
  | .reserve name, m => m.reserve name
  | .release name, m => ((), m.release name)
  | .log event, m => ((), m.log event)
  | .isMountPoint path, m => (m.isMountPoint path, m)
  | .probe path, m => (m.probe path, m)
  | .makeDirectory path, m => m.makeDirectory path
  | .bindMount source target options, m => m.bindMount source target options
  | .unmount path, m => m.unmount path
  | .removeDirectory path, m => m.removeDirectory path
  | .fuseMount volume target secrets, m => fuse m volume target secrets
  | .statFileSystem path, m => (m.bench.scene.tree.statFileSystem path, m)

/-! ## Mounts of the host -/

/-- Work on the mounts of the host instead of the table. -/
def onHost {α : Type} (m : Machine) (work : Program Mount.Kernel.interface α) : α × Machine :=
  let (answer, scene) := work.run Host.kernel m.bench.scene
  (answer, { m with bench := { m.bench with scene } })

/-- The calls on mounts go to the host, the others stay. -/
def handleHost (fuse : FuseMounter) : Program.Handler interface Machine
  | .isMountPoint path, m => m.onHost (Mount.Kernel.isMountPoint path).run
  | .probe path, m => m.onHost (Mount.Kernel.probe path).run
  | .makeDirectory path, m => m.onHost (Mount.Kernel.makeDirectory path).run
  | .bindMount source target options, m =>
    m.onHost (Mount.Kernel.bindMount source target options).run
  | .unmount path, m => m.onHost (Mount.Kernel.unmount path).run
  | call, m => handle fuse call m

end Machine

end FuseVolumes.Node
