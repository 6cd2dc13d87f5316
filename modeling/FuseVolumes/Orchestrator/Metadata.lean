import FuseVolumes.Event
import FuseVolumes.Fault
import FuseVolumes.Orchestrator.Object
import FuseVolumes.Program
import FuseVolumes.Secret.Reference
import FuseVolumes.Status

/-! What a storage driver wants to know from the orchestrator: the labels of its node, and what
it takes to rebuild mounts. -/

namespace FuseVolumes.Orchestrator

/-- Why the orchestrator gave no answer. -/
inductive ApiError
  | failed
  | unreachable
  deriving DecidableEq, Repr

/-- The words of the orchestrator stand as `<kube error>`. -/
def ApiError.message : ApiError → String
  | .failed => "<kube error>"
  | .unreachable =>
    s!"HyperError: error trying to connect: tcp connect error: {(Fault.errno 101).message}"

inductive Call
  | node (name : String)
  | attachments
  | volumes
  | pods (node : String)
  | classes
  | claim (ns name : String)
  | secret (ns name : String)
  | log (event : Event)
  deriving DecidableEq, Repr

@[reducible] def Call.Reply : Call → Type
  | .node _ => Except ApiError (Option NodeObject)
  | .attachments => Except ApiError (List Attachment)
  | .volumes => Except ApiError (List PersistentVolume)
  | .pods _ => Except ApiError (List Pod)
  | .classes => Except ApiError (List StorageClass)
  | .claim _ _ => Except ApiError (Option ClaimObject)
  | .secret _ _ => Except ApiError (Option Dict)
  | .log _ => Unit

@[reducible] def interface : Interface := ⟨Call, Call.Reply⟩

/-- Work with the orchestrator that ends in an answer or an error. -/
abbrev Work (ε α : Type) := ExceptT ε (Program interface) α

def ask (call : Call) : Program interface (Call.Reply call) := .request (I := interface) call

def log (event : Event) : Program interface Unit := ask (.log event)

def logAll : List Event → Program interface Unit
  | [] => return ()
  | event :: rest => do
    log event
    logAll rest

namespace Metadata

inductive Error
  | api (resource : String) (cause : ApiError)
  | nodeNotFound (node : String)
  | secretNotFound (secret : Secret.Reference)
  deriving DecidableEq, Repr

def Error.message : Error → String
  | .api resource cause => s!"Failed to get {resource}: {cause.message}"
  | .nodeNotFound node => s!"Node '{node}' not found"
  | .secretNotFound secret => s!"Secret '{secret.display}' not found"

def Error.status (e : Error) : Status :=
  match e with
  | .api _ _ => ⟨.unavailable, e.message⟩
  | _ => ⟨.notFound, e.message⟩

/-- The labels of a node. -/
def nodeLabels (node : String) : Work Error Dict := do
  match ← (ask (.node node)).orFail (.api s!"node {node}") with
  | some object => return object.labels
  | none => throw (.nodeNotFound node)

/-- The names of the volumes that a driver has attached to a node. -/
def attachedNames (attachments : List Attachment) (node driver : String) : List String :=
  (attachments.filter fun a => a.node == node && a.attacher == driver && a.attached).filterMap
    (·.volume)

/-- Whether a volume is one of the named ones and of the driver. -/
def isAttached (names : List String) (driver : String) (v : PersistentVolume) : Bool :=
  match v.name, v.source with
  | some name, some source => names.contains name && source.driver == driver
  | _, _ => false

/-- The volumes that a driver has attached to a node. -/
def attachedVolumes (node driver : String) : Work Error (List PersistentVolume) := do
  let attachments ← (ask .attachments).orFail (.api "volume attachments")
  let names := attachedNames attachments node driver
  if names.isEmpty then return []
  let volumes ← (ask .volumes).orFail (.api "persistent volumes")
  return volumes.filter (isAttached names driver)

def podsOnNode (node : String) : Work Error (List Pod) :=
  (ask (.pods node)).orFail (.api s!"pods of node {node}")

/-- The storage classes of a driver. -/
def storageClasses (driver : String) : Work Error (List StorageClass) := do
  let classes ← (ask .classes).orFail (.api "storage classes")
  return classes.filter (·.provisioner == driver)

/-- The claim of that name, if there is one. -/
def claim (ns name : String) : Work Error (Option Secret.Claim) := do
  let found ← (ask (.claim ns name)).orFail (.api s!"claim {ns}/{name}")
  return found.map fun object => ⟨name, ns, object.annotations⟩

/-- The values of a secret. -/
def secret (r : Secret.Reference) : Work Error Dict := do
  match ← (ask (.secret r.«namespace» r.name)).orFail (.api s!"secret {r.display}") with
  | some values => return values
  | none => throw (.secretNotFound r)

end Metadata

end FuseVolumes.Orchestrator
