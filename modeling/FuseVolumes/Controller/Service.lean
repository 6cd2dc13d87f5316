import FuseVolumes.Csi.Capability
import FuseVolumes.Engine.Pool
import FuseVolumes.Reservations
import FuseVolumes.Topology

/-! The controller's part of the storage interface: volumes are created, deleted and expanded
in the pool of their cluster by its admin. Requests on one name or handle exclude each
other. -/

namespace FuseVolumes.Controller

open Engine (Work)

structure CreateRequest where
  name : String
  /-- The capacity asked for, none if no range is given. -/
  required : Option Int
  capabilities : List Csi.Capability
  parameters : Dict
  secrets : Dict
  hasContentSource : Bool
  requirement : Option Topology.Requirement
  deriving DecidableEq, Repr

structure DeleteRequest where
  volumeId : String
  secrets : Dict
  deriving DecidableEq, Repr

structure ExpandRequest where
  volumeId : String
  required : Option Int
  secrets : Dict
  deriving DecidableEq, Repr

structure ValidateRequest where
  volumeId : String
  context : Dict
  capabilities : List Csi.Capability
  parameters : Dict
  deriving DecidableEq, Repr

/-- A volume as the orchestrator is to know it. -/
structure Created where
  capacity : Int
  volumeId : String
  context : Dict
  hasContentSource : Bool
  topology : List Dict
  deriving DecidableEq, Repr

/-- What an expansion granted; the node has nothing to do. -/
structure Expanded where
  capacity : Int
  nodeExpansionRequired : Bool
  deriving DecidableEq, Repr

structure Confirmation where
  context : Dict
  capabilities : List Csi.Capability
  parameters : Dict
  deriving DecidableEq, Repr

/-- A confirmation, or the reason why there is none. -/
structure Validated where
  confirmed : Option Confirmation
  message : String
  deriving DecidableEq, Repr

namespace Service

def refuse {α : Type} (message : String) : Work Status α := throw ⟨.invalidArgument, message⟩

def info (message : String) (fields : List (String × String)) : Program Engine.interface Unit :=
  Engine.log ((Event.info .controller message).beside fields)

/-- Work on a name that nobody else works on. -/
def exclusively {α : Type} (name : String) (work : Work Status α) : Work Status α :=
  Engine.reserving name (Reservations.InProgress.mk name).status work

/-- Work with the admin's credentials. -/
def asAdmin {α : Type} (secrets : Dict) (work : Credentials → Work Status α) : Work Status α :=
  Engine.withCredentials .admin secrets Credentials.Error.status work

/-- Work on the pool, whose errors become statuses. -/
def onPool {α : Type} (work : Work Engine.Error α) : Work Status α :=
  (work.run).orFail Engine.Error.status

/-! ## Creating -/

/-- Makes sure that the volume is there. A request that is sent again finds it. -/
def provide (v : Volume) (c : Credentials) : Work Status Unit := do
  if ! (← onPool (Engine.Pool.exists? v c)) then
    onPool (Engine.Pool.create v c)
    info "Volume successfully created" [("volume.id", v.id), ("volume.name", v.name)]

/-- The answer about a volume that is there. -/
def created (r : CreateRequest) (v : Volume) : Created where
  capacity := Capacity.roundUp (r.required.getD 0)
  volumeId := v.id
  context := r.parameters.insert Volume.clusterParameter v.cluster
  hasContentSource := false
  topology := (Topology.ofParameters r.parameters r.requirement).toList

def createExclusively (clusters : Clusters) (r : CreateRequest) (c : Credentials) :
    Work Status Created := do
  match Volume.ofRequest r.name r.parameters (r.required.getD 0) c.user clusters with
  | .error e => throw e.status
  | .ok v =>
    provide v c
    return created r v

def create (clusters : Clusters) (r : CreateRequest) : Work Status Created :=
  if r.name.isEmpty then refuse "Name missing in request"
  else if r.capabilities.isEmpty then refuse "Volume Capabilities missing in request"
  else
    match Csi.checkAll r.capabilities with
    | .error e => refuse e.message
    | .ok () =>
      if r.hasContentSource then
        refuse "Creating volumes from a content source is not supported"
      else asAdmin r.secrets fun c => exclusively r.name (createExclusively clusters r c)

/-! ## Deleting -/

/-- Deletes the volume of a handle. Whoever set up a volume by hand owns it. -/
def deleteExclusively (clusters : Clusters) (r : DeleteRequest) (c : Credentials) :
    Work Status Unit := do
  match Volume.ofHandle r.volumeId none clusters with
  | .error (.invalidVolumeId _ _) =>
    info "Not a provisioned volume id, leaving the volume in place" [("volume.id", r.volumeId)]
  | .error e => throw e.status
  | .ok v =>
    onPool (Engine.Pool.delete v c)
    info "Volume successfully deleted" [("volume.id", r.volumeId)]

def delete (clusters : Clusters) (r : DeleteRequest) : Work Status Unit :=
  if r.volumeId.isEmpty then refuse "Volume ID missing in request"
  else asAdmin r.secrets fun c => exclusively r.volumeId (deleteExclusively clusters r c)

/-! ## Expanding -/

def expandExclusively (clusters : Clusters) (r : ExpandRequest) (required : Int)
    (c : Credentials) : Work Status Expanded := do
  match Volume.ofHandle r.volumeId (some required) clusters with
  | .error e => throw e.status
  | .ok v =>
    let capacity ← onPool (Engine.Pool.resize v c)
    info "Volume successfully expanded"
      [("volume.id", r.volumeId), ("capacity_bytes", toString capacity)]
    return ⟨capacity, false⟩

def expand (clusters : Clusters) (r : ExpandRequest) : Work Status Expanded :=
  if r.volumeId.isEmpty then refuse "Volume ID missing in request"
  else
    match r.required.filter (0 < ·) with
    | none => refuse "Volume capacity range is not provided"
    | some required =>
      exclusively r.volumeId (asAdmin r.secrets (expandExclusively clusters r required))

/-! ## Validating -/

def validate (r : ValidateRequest) : Work Status Validated :=
  if r.volumeId.isEmpty then refuse "Volume ID cannot be empty"
  else if r.capabilities.isEmpty then
    refuse s!"Volume {r.volumeId} Capabilities cannot be empty"
  else
    match Csi.checkAll r.capabilities with
    | .ok () => return ⟨some ⟨r.context, r.capabilities, r.parameters⟩, ""⟩
    | .error e => return ⟨none, e.message⟩

end Service

/-! ## All requests -/

inductive Request
  | create (request : CreateRequest)
  | delete (request : DeleteRequest)
  | expand (request : ExpandRequest)
  | validate (request : ValidateRequest)
  | capabilities
  /-- Anything else the interface knows. -/
  | other
  deriving DecidableEq, Repr

/-- The work of a request as logs know it. A volume has no handle before it is made. -/
def Request.span : Request → Option Span
  | .create r =>
    some ⟨.controller, "create_volume", [("volume.name", some r.name), ("volume.id", none)]⟩
  | .delete r => some (.onVolume .controller "delete_volume" r.volumeId)
  | .expand r => some (.onVolume .controller "controller_expand_volume" r.volumeId)
  | .validate r => some (.onVolume .controller "validate_volume_capabilities" r.volumeId)
  | .capabilities => some ⟨.controller, "controller_get_capabilities", []⟩
  | .other => none

inductive Answer
  | created (volume : Created)
  | deleted
  | expanded (expanded : Expanded)
  | validated (validated : Validated)
  | capabilities (numbers : List Int)
  deriving DecidableEq, Repr

def Request.answer (clusters : Clusters) : Request → Work Status Answer
  | .create r => do return .created (← Service.create clusters r)
  | .delete r => do Service.delete clusters r; return .deleted
  | .expand r => do return .expanded (← Service.expand clusters r)
  | .validate r => do return .validated (← Service.validate r)
  | .capabilities => return .capabilities Csi.controllerOffers
  | .other => throw ⟨.unimplemented, "Not implemented"⟩

end FuseVolumes.Controller
