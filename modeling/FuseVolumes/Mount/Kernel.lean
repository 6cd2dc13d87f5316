import FuseVolumes.Event
import FuseVolumes.Mount.Info
import FuseVolumes.Mount.Options
import FuseVolumes.Mount.Table
import FuseVolumes.Path
import FuseVolumes.Program

/-! Mounts of the host, by way of the kernel. The kernel takes the flags of a bind mount only
when it is mounted again, and does not tell a bind mount within one file system by its device:
the list of mounts does. -/

namespace FuseVolumes.Mount.Kernel

inductive Call
  /-- The number of the device that holds a path. -/
  | device (path : String)
  /-- The path without dots and double slashes. -/
  | realPath (path : String)
  /-- The list of mounts. -/
  | mountList
  | readDirectory (path : String)
  | makeDirectories (path : String)
  | bind (source target : String)
  | remount (source target : String) (flags : Nat)
  | unmount (target : String) (detach : Bool)
  | log (event : Event)
  deriving DecidableEq, Repr

@[reducible] def Call.Reply : Call → Type
  | .device _ => Except Fault Nat
  | .realPath _ => Except Fault String
  | .mountList => Except Fault String
  | .readDirectory _ => Except Fault Unit
  | .makeDirectories _ => Except Fault Unit
  | .bind _ _ => Except Fault Unit
  | .remount _ _ _ => Except Fault Unit
  | .unmount _ _ => Except Fault Unit
  | .log _ => Unit

@[reducible] def interface : Interface := ⟨Call, Call.Reply⟩

abbrev Work (ε α : Type) := ExceptT ε (Program interface) α

def ask (call : Call) : Program interface (Call.Reply call) := .request (I := interface) call

/-- Whether the path is the root of a mount. A path without a parent is taken for one. -/
def isMountPoint (path : String) : Work Fault Bool := do
  let device ← ask (.device path)
  match Path.parent? path with
  | none | some "" => return true
  | some parent =>
    if device ≠ (← ask (.device parent)) then return true
    else
      let place ← ask (.realPath path)
      return (points (← ask .mountList)).contains place

/-- Reads what is at the path, which fails if what is mounted there does not answer. -/
def probe (path : String) : Work Fault Unit := ask (.readDirectory path)

def makeDirectory (path : String) : Work Fault Unit := ask (.makeDirectories path)

/-- Takes back a bind mount that did not get its flags. -/
def undo (target : String) : Program interface Unit := do
  match ← ask (.unmount target false) with
  | .ok () => return ()
  | .error fault =>
    ask <| .log <| (Event.warn .mounts "Failed to undo bind mount").beside
      [("error", fault.message), ("target", target)]

/-- Mounts the source on the target, then again if the options stand for flags. -/
def bindMount (source target : String) (options : List String) : Work Error Unit := do
  (ask (.bind source target)).orFail (.bindMount source target)
  let flags := remountFlags options
  if flags ≠ 0 then
    match ← ask (.remount source target flags) with
    | .ok () => return ()
    | .error fault =>
      undo target
      throw (.remount target options fault)

/-- Faults of a path that is not mounted or does not exist. -/
def isAbsence (fault : Fault) : Bool := fault = .invalidArgument || fault = .notFound

/-- Unmounts the target, at once or as soon as nobody uses it. What is not mounted is as good
as unmounted. -/
def unmount (target : String) : Work Error Unit := do
  match ← ask (.unmount target false) with
  | .ok () => return ()
  | .error fault =>
    if ! isAbsence fault then
      ask <| .log <| (Event.warn .mounts "Unmount failed, detaching").beside
        [("error", fault.message), ("target", target)]
      (ask (.unmount target true)).orFail (.unmount target)

end FuseVolumes.Mount.Kernel
