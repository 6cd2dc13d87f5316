import FuseVolumes.Node.Call

/-! Mount points. Whatever is to be mounted first brings its path into a known state: a mount
that answers is used again, one that does not is taken down, and a missing directory is
made. -/

namespace FuseVolumes.Node

/-- Why a mount point could not be brought into the wanted state. -/
inductive MountPointError
  | inspect (path : String) (fault : Fault)
  | makeDirectory (path : String) (fault : Fault)
  | remove (path : String) (fault : Fault)
  | mount (cause : Mount.Error)
  deriving DecidableEq, Repr

def MountPointError.message : MountPointError → String
  | .inspect path fault => s!"Failed to check mount point {path}: {fault.message}"
  | .makeDirectory path fault => s!"Failed to create mount point {path}: {fault.message}"
  | .remove path fault => s!"Failed to remove mount point {path}: {fault.message}"
  | .mount cause => cause.message

def MountPointError.status (e : MountPointError) : Status := ⟨.internal, e.message⟩

/-- A mount point as it is found. -/
inductive MountPoint
  | absent
  | empty
  | mounted
  | corrupted
  deriving DecidableEq, Repr

namespace MountPoint

def text : MountPoint → String
  | absent => "Absent"
  | empty => "Empty"
  | mounted => "Mounted"
  | corrupted => "Corrupted"

def inspect (path : String) : Work MountPointError MountPoint := do
  match ← ask (.isMountPoint path) with
  | .ok false => return empty
  | .ok true =>
    match ← ask (.probe path) with
    | .ok () => return mounted
    | .error fault =>
      log <| (Event.warn .mountPoint "Mount point is not responsive").beside
        [("path", path), ("error", fault.message)]
      return corrupted
  | .error fault =>
    if fault = .notFound then return absent
    else if fault.isCorruption then return corrupted
    else throw (.inspect path fault)

def unmount (path : String) : Work MountPointError Unit :=
  (ask (.unmount path)).orFail .mount

/-- Makes a path ready to be mounted on, and tells whether a mount that answers is there
already. -/
def ensure (path : String) : Work MountPointError Bool := do
  match ← inspect path with
  | mounted => return true
  | corrupted =>
    log <| (Event.info .mountPoint "Unmounting corrupted mount point").beside [("path", path)]
    unmount path
    return false
  | absent =>
    (ask (.makeDirectory path)).orFail (.makeDirectory path)
    return false
  | empty => return false

/-- Removes the directory; one that is gone already is removed. -/
def removeDirectory (path : String) : Work MountPointError Unit := do
  match ← ask (.removeDirectory path) with
  | .ok () => return ()
  | .error fault => if fault ≠ .notFound then throw (.remove path fault)

/-- Takes down whatever is mounted on the path and removes the directory. -/
def cleanup (path : String) : Work MountPointError Unit := do
  match ← inspect path with
  | absent => return ()
  | mounted | corrupted =>
    unmount path
    removeDirectory path
  | empty => removeDirectory path

end MountPoint

end FuseVolumes.Node
