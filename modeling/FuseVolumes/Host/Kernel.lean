import FuseVolumes.Host.Tree
import FuseVolumes.Mount.Kernel

/-! What the kernel of a host answers to mounts. The host grants nobody the privilege to mount,
so every attempt is refused once its path is found. -/

namespace FuseVolumes.Host

/-- The files of a host and the log of a program that runs on it. -/
structure Scene where
  tree : Tree
  events : List Event
  deriving Repr

namespace Scene

def log (s : Scene) (event : Event) : Scene := { s with events := s.events ++ [event] }

/-- The events after the first `known` happened during some work. -/
def logDuring (s : Scene) (known : Nat) (span : Span) : Scene :=
  { s with events := s.events.take known ++ (s.events.drop known).map (·.during span) }

/-- Answers with a change of the files. -/
def change (s : Scene) (result : Except Fault Unit × Tree) : Except Fault Unit × Scene :=
  (result.1, { s with tree := result.2 })

/-- Answers with the changed files or a fault. -/
def attempt (s : Scene) : Except Fault Tree → Except Fault Unit × Scene
  | .ok tree => (.ok (), { s with tree })
  | .error fault => (.error fault, s)

end Scene

namespace Tree

/-- The mounted file system that holds a place, as its position among the mounts. -/
def deviceOf (t : Tree) (place : Place) : Nat :=
  let above := (t.mountPoints.zipIdx).filter fun (point, _) => point.isPrefixOf place
  (above.foldl (fun best next => if best.1.length ≤ next.1.length then next else best)
    ([], 0)).2

def placeText (place : Place) : String := "/" ++ "/".intercalate place

/-- The list of mounts, one line each. -/
def mountList (t : Tree) : String :=
  String.join (t.mountPoints.map fun place => s!"1 1 0:1 / {placeText place} rw - none none rw\n")

/-- Mounting and unmounting fail for want of a path or of the privilege. -/
def refuseMount (t : Tree) (path : String) : Except Fault Unit :=
  match t.find path with
  | .ok _ => .error .notPermitted
  | .error fault => .error fault

end Tree

open Mount.Kernel (Call)

/-- The kernel at work on a scene. -/
def kernel : Program.Handler Mount.Kernel.interface Scene
  | .device path, s => ((s.tree.find path).map fun (place, _) => s.tree.deviceOf place, s)
  | .realPath path, s => ((s.tree.find path).map fun (place, _) => Tree.placeText place, s)
  | .mountList, s => (.ok s.tree.mountList, s)
  | .readDirectory path, s => (s.tree.readDirectory path, s)
  | .makeDirectories path, s => s.change (s.tree.makeDirectories path)
  | .bind _ target, s => (s.tree.refuseMount target, s)
  | .remount _ target _, s => (s.tree.refuseMount target, s)
  | .unmount target _, s => (s.tree.refuseMount target, s)
  | .log event, s => ((), s.log event)

end FuseVolumes.Host
