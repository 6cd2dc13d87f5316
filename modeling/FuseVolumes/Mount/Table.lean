import FuseVolumes.Fault
import FuseVolumes.Status
import FuseVolumes.Text.Quoted

/-! Mounts by path. A path may exist as a directory, and may have a file system mounted on it
that answers or no longer does. -/

namespace FuseVolumes.Mount

/-- Why the mount table could not be changed. -/
inductive Error
  | bindMount (source target : String) (fault : Fault)
  | remount (target : String) (options : List String) (fault : Fault)
  | unmount (target : String) (fault : Fault)
  deriving DecidableEq, Repr

def Error.message : Error → String
  | .bindMount source target fault =>
    s!"Failed to bind mount {source} on {target}: {fault.message}"
  | .remount target options fault =>
    s!"Failed to remount {target} with {Text.quotedList options}: {fault.message}"
  | .unmount target fault => s!"Failed to unmount {target}: {fault.message}"

def Error.status (e : Error) : Status := ⟨.internal, e.message⟩

/-- A mounted file system: it answers, it lost its daemon, or it cannot be read. -/
inductive Health
  | healthy
  | disconnected
  | unreadable
  deriving DecidableEq, Repr

/-- What is at a path. -/
inductive PathState
  | absent
  | empty
  | mounted (health : Health)
  deriving DecidableEq, Repr

/-- Directories and mounts by the text of their paths. Texts are compared as they are, so every path
is to have one: no `.` or `..` among its names, no double slashes, and no slash at its end. -/
structure Table where
  dirs : List String
  mounts : List (String × Health)
  deriving DecidableEq, Repr

namespace Table

def empty : Table := ⟨[], []⟩

def mount? (t : Table) (path : String) : Option Health := t.mounts.lookup path

/-- What is at a path: a mount hides the directory below it. -/
def state (t : Table) (path : String) : PathState :=
  match t.mount? path with
  | some health => .mounted health
  | none => if t.dirs.contains path then .empty else .absent

def addDir (t : Table) (path : String) : Table :=
  if t.dirs.contains path then t else { t with dirs := t.dirs ++ [path] }

def removeMount (t : Table) (path : String) : Table :=
  { t with mounts := t.mounts.filter (·.1 != path) }

def removeDir (t : Table) (path : String) : Table :=
  { t with dirs := t.dirs.filter (· != path) }

/-- Puts a mount on a path, in place of any other. -/
def addMount (t : Table) (path : String) (health : Health) : Table :=
  { t with mounts := (path, health) :: (t.removeMount path).mounts }

/-- A new mount that answers, on a directory that is there from now on. -/
def mountHealthy (t : Table) (path : String) : Table :=
  (t.addDir path).addMount path .healthy

/-- Brings a path into a state. A mount that is put in place leaves the directory alone. -/
def set (t : Table) (path : String) : PathState → Table
  | .absent => (t.removeDir path).removeMount path
  | .empty => (t.addDir path).removeMount path
  | .mounted health => t.addMount path health

/-- Whether a file system is mounted on the path. One whose daemon is gone does not say. -/
def isMountPoint (t : Table) (path : String) : Except Fault Bool :=
  match t.state path with
  | .mounted .disconnected => .error (.errno 107)
  | .mounted _ => .ok true
  | .empty => .ok false
  | .absent => .error .notFound

/-- Reads what is mounted on the path, if anything is. -/
def probe (t : Table) (path : String) : Except Fault Unit :=
  match t.state path with
  | .mounted .healthy => .ok ()
  | .mounted _ => .error (.errno 107)
  | _ => .ok ()

end Table

/-- Calls that are to fail, by path. A bind mount that cannot be mounted again with its flags is
taken back by an unmount of its own, `undo`. -/
structure Failures where
  isMountPoint : List (String × Int)
  probe : List (String × Int)
  makeDir : List (String × Int)
  bindMount : List (String × Int)
  remount : List (String × Int)
  unmount : List (String × Int)
  undo : List (String × Int)
  deriving DecidableEq, Repr

def Failures.none : Failures := ⟨[], [], [], [], [], [], []⟩

end FuseVolumes.Mount
