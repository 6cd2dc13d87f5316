import FuseVolumes.Engine.Command
import FuseVolumes.Mount.Table
import FuseVolumes.Reservations
import FuseVolumes.Volume

/-! What a node plugin asks its surroundings for: mounts, directories, fuse daemons,
reservations and the log. -/

namespace FuseVolumes.Node

inductive Call
  | reserve (name : String)
  | release (name : String)
  | log (event : Event)
  | isMountPoint (path : String)
  | probe (path : String)
  | makeDirectory (path : String)
  | bindMount (source target : String) (options : List String)
  | unmount (path : String)
  | removeDirectory (path : String)
  | fuseMount (volume : Volume) (target : String) (secrets : Dict)
  | statFileSystem (path : String)
  deriving DecidableEq, Repr

@[reducible] def Call.Reply : Call → Type
  | .reserve _ => Bool
  | .release _ => Unit
  | .log _ => Unit
  | .isMountPoint _ => Except Fault Bool
  | .probe _ => Except Fault Unit
  | .makeDirectory _ => Except Fault Unit
  | .bindMount _ _ _ => Except Mount.Error Unit
  | .unmount _ => Except Mount.Error Unit
  | .removeDirectory _ => Except Fault Unit
  | .fuseMount _ _ _ => Except Engine.Error Unit
  | .statFileSystem _ => Except Fault Unit

@[reducible] def interface : Interface := ⟨Call, Call.Reply⟩

/-- Work on a node that ends in an answer or an error. -/
abbrev Work (ε α : Type) := ExceptT ε (Program interface) α

def ask (call : Call) : Program interface (Call.Reply call) := .request (I := interface) call

def log (event : Event) : Program interface Unit := ask (.log event)

/-- Work under a reserved name, which is given back however the work ends. -/
def reserving {ε α : Type} (name : String) (taken : ε) (work : Work ε α) : Work ε α :=
  ExceptT.mk do
    if ← ask (.reserve name) then
      let result ← work.run
      ask (.release name)
      return result
    else return .error taken

end FuseVolumes.Node
