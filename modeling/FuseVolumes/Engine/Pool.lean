import FuseVolumes.Engine.Command
import FuseVolumes.Volume

/-! The volumes of a pool, through the pool tool: create, find, delete and resize. -/

namespace FuseVolumes.Engine.Pool

/-- The arguments of a verb on a volume. -/
def arguments (v : Volume) (c : Credentials) (operation : Operation) (operands : List String) :
    List String :=
  c.arguments ++ ["-c", v.poolUrl, operation.text] ++ operands

def run (v : Volume) (c : Credentials) (operation : Operation) (operands : List String) :
    Work Error Output :=
  runTool poolTool (arguments v c operation operands)

/-- Reports a command that failed. -/
def fail {α : Type} (v : Volume) (operation : Operation) (output : Output) : Work Error α := do
  log <| (Event.warn .pool ("[FastCFS] " ++ output.trimmed)).beside
    [("volume.id", v.id), ("operation", operation.text), ("exit_code", output.exitText)]
  throw (.failed operation v.name output)

/-- Creates the volume with its capacity as quota. -/
def create (v : Volume) (c : Credentials) : Work Error Unit := do
  let output ← run v c .create [v.name, Capacity.quota v.capacity]
  if ! output.success then fail v .create output

/-- How some releases of the tool tell of a missing volume without an exit code. -/
def missingText (name : String) : String := name ++ " not exist"

/-- Whether the volume exists. -/
def exists? (v : Volume) (c : Credentials) : Work Error Bool := do
  let output ← run v c .plist [c.user, v.name]
  if output.notFound then return false
  else if ! output.success then fail v .plist output
  else return ! Text.contains (missingText v.name).toList output.text.toList

/-- Deletes the volume; one that does not exist is as good as deleted. -/
def delete (v : Volume) (c : Credentials) : Work Error Unit := do
  let output ← run v c .delete [v.name]
  if ! (output.success || output.notFound
      || Text.contains "No such file or directory".toList output.text.toList) then
    fail v .delete output

/-- Sets the quota to the capacity, and answers with what was granted. -/
def resize (v : Volume) (c : Credentials) : Work Error Int := do
  let output ← run v c .quota [v.name, Capacity.quota v.capacity]
  if ! output.success then fail v .quota output
  else return Capacity.roundUp v.capacity

end FuseVolumes.Engine.Pool
