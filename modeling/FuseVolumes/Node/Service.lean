import FuseVolumes.Csi.Capability
import FuseVolumes.Mount.Options
import FuseVolumes.Node.MountPoint

/-! The node's part of the storage interface. A volume is staged once per node by a fuse mount,
and published to every pod by a bind mount of the staging path. Requests on one volume exclude
each other. -/

namespace FuseVolumes.Node

structure StageRequest where
  volumeId : String
  stagingPath : String
  capability : Option Csi.Capability
  secrets : Dict
  context : Dict
  deriving DecidableEq, Repr

structure UnstageRequest where
  volumeId : String
  stagingPath : String
  deriving DecidableEq, Repr

structure PublishRequest where
  volumeId : String
  stagingPath : String
  targetPath : String
  capability : Option Csi.Capability
  readOnly : Bool
  deriving DecidableEq, Repr

structure UnpublishRequest where
  volumeId : String
  targetPath : String
  deriving DecidableEq, Repr

structure StatsRequest where
  volumeId : String
  volumePath : String
  deriving DecidableEq, Repr

/-- The figures of a volume, as the numbers of their units, and its condition. -/
structure Stats where
  usageUnits : List Int
  abnormal : Bool
  message : String
  deriving DecidableEq, Repr

/-- What a node tells of itself. -/
structure Info where
  name : String
  maxVolumes : Int
  topology : Dict
  deriving DecidableEq, Repr

/-- Nodes outside any topology report none. -/
def Info.accessibleTopology (i : Info) : Option Dict :=
  if i.topology.isEmpty then none else some i.topology

namespace Service

/-! ## Refusals -/

/-- A failure that is logged as well. -/
def fail {α : Type} (code : Code) (message : String) : Work Status α := do
  log (.error .node message)
  throw ⟨code, message⟩

/-- Refuses a request for its form. -/
def refuse {α : Type} (message : String) : Work Status α := fail .invalidArgument message

/-- Why a capability is not good for a mount. -/
def capabilityFault? : Option Csi.Capability → Option String
  | none => some "missing volume capability"
  | some c => if c.access = some .block then some Csi.blockRefusal else none

/-- The mount flags of a capability. -/
def mountFlags : Option Csi.Capability → List String
  | some ⟨some (.mount _ flags), _⟩ => flags
  | _ => []

/-- Work on a volume that nobody else works on. -/
def exclusively {α : Type} (volumeId : String) (work : Work Status α) : Work Status α :=
  reserving volumeId (Reservations.InProgress.mk volumeId).status work

/-- Work on a mount point, whose errors become statuses. -/
def atMountPoint {α : Type} (work : Work MountPointError α) : Work Status α :=
  (work.run).orFail MountPointError.status

/-! ## Staging -/

/-- Mounts the volume on its staging path. A mount that answers is used again, one that does
not is replaced. -/
def stageExclusively (clusters : Clusters) (r : StageRequest) : Work Status Unit := do
  if ← atMountPoint (MountPoint.ensure r.stagingPath) then return ()
  match Volume.resolve r.volumeId r.context clusters with
  | .error e => throw e.status
  | .ok volume =>
    match ← ask (.fuseMount volume r.stagingPath r.secrets) with
    | .error e =>
      fail .internal s!"Failed to stage volume {r.volumeId}: fuse mount failed: {e.message}"
    | .ok () => log (.info .node s!"Volume {r.volumeId} staged on {r.stagingPath}")

def stage (clusters : Clusters) (r : StageRequest) : Work Status Unit := do
  if r.volumeId.isEmpty then refuse "Failed to stage volume: missing volume id"
  else if r.stagingPath.isEmpty then
    refuse s!"Failed to stage volume {r.volumeId}: missing staging path"
  else
    match capabilityFault? r.capability with
    | some fault => refuse s!"Failed to stage volume {r.volumeId}: {fault}"
    | none => exclusively r.volumeId (stageExclusively clusters r)

/-- Takes down whatever is mounted on the staging path. -/
def unstageExclusively (r : UnstageRequest) : Work Status Unit := do
  match ← atMountPoint (MountPoint.inspect r.stagingPath) with
  | .absent | .empty => return ()
  | .mounted | .corrupted =>
    atMountPoint (MountPoint.cleanup r.stagingPath)
    log (.info .node s!"Volume {r.volumeId} unstaged from {r.stagingPath}")

def unstage (r : UnstageRequest) : Work Status Unit := do
  if r.volumeId.isEmpty then refuse "Failed to unstage volume: missing volume id"
  else if r.stagingPath.isEmpty then
    refuse s!"Failed to unstage volume {r.volumeId}: missing staging path"
  else exclusively r.volumeId (unstageExclusively r)

/-! ## Publishing -/

/-- The options of a pod's mount: those of every bind mount, the flags of the volume, and
read-only if the pod asks for it. -/
def publishOptions (flags : List String) (readOnly : Bool) : List String :=
  let options := Mount.unionOptions Mount.bindOptions flags
  if readOnly && ! options.contains "ro" then options ++ ["ro"] else options

/-- Bind mounts the staging path on the target path. A target that could not be mounted is
removed again. -/
def publishExclusively (r : PublishRequest) : Work Status Unit := do
  if ← atMountPoint (MountPoint.ensure r.targetPath) then return ()
  let options := publishOptions (mountFlags r.capability) r.readOnly
  match ← ask (.bindMount r.stagingPath r.targetPath options) with
  | .ok () =>
    log <| .info .node
      s!"Volume {r.volumeId} published on {r.targetPath} with {Text.quotedList options}"
  | .error e =>
    match ← ask (.removeDirectory r.targetPath) with
    | .ok () | .error (.errno 2) =>
      fail .internal s!"Failed to publish volume {r.volumeId}: {e.message}"
    | .error fault =>
      fail .internal (s!"Failed to publish volume {r.volumeId}: could not remove mount target "
        ++ s!"{r.targetPath}: {fault.message}")

def publish (r : PublishRequest) : Work Status Unit := do
  match capabilityFault? r.capability with
  | some fault => refuse s!"Failed to publish volume {r.volumeId}: {fault}"
  | none =>
    if r.volumeId.isEmpty then refuse "Failed to publish volume: missing volume id"
    else if r.targetPath.isEmpty then
      refuse s!"Failed to publish volume {r.volumeId}: missing target path"
    else if r.stagingPath.isEmpty then
      refuse s!"Failed to publish volume {r.volumeId}: missing staging path"
    else exclusively r.volumeId (publishExclusively r)

/-- Unmounts the target path and removes it. -/
def unpublishExclusively (r : UnpublishRequest) : Work Status Unit := do
  atMountPoint (MountPoint.cleanup r.targetPath)
  log (.info .node s!"Volume {r.volumeId} unpublished from {r.targetPath}")

def unpublish (r : UnpublishRequest) : Work Status Unit := do
  if r.volumeId.isEmpty then refuse "Failed to unpublish volume: missing volume id"
  else if r.targetPath.isEmpty then
    refuse s!"Failed to unpublish volume {r.volumeId}: missing target path"
  else exclusively r.volumeId (unpublishExclusively r)

/-! ## Figures -/

/-- A file system that gives no figures. -/
def statsStatus (fault : Fault) : Status :=
  match fault with
  | .errno n =>
    let message := s!"{Fault.errnoName n}: {Fault.errnoText n}"
    if n = 2 then ⟨.notFound, message⟩
    else if n = 5 || n = 20 then ⟨.internal, message⟩
    else if n = 38 then ⟨.unavailable, message⟩
    else ⟨.invalidArgument, message⟩
  | _ => ⟨.invalidArgument, fault.message⟩

/-- Bytes and inodes. -/
def usageUnits : List Int := [1, 2]

def statsExclusively (r : StatsRequest) : Work Status Stats := do
  match ← atMountPoint (MountPoint.inspect r.volumePath) with
  | .absent => throw ⟨.notFound, s!"volume path {r.volumePath} doesn't exist"⟩
  | .empty => throw ⟨.invalidArgument, s!"volume path {r.volumePath} is not mounted"⟩
  | .corrupted =>
    log (.warn .node s!"Volume {r.volumeId} mount {r.volumePath} is corrupted")
    return ⟨[], true, s!"the fuse daemon serving {r.volumePath} is not responding"⟩
  | .mounted =>
    match ← ask (.statFileSystem r.volumePath) with
    | .error fault => throw (statsStatus fault)
    | .ok () => return ⟨usageUnits, false, ""⟩

def stats (r : StatsRequest) : Work Status Stats := do
  if r.volumeId.isEmpty then refuse "Failed to get volume stats: missing volume id"
  else if r.volumePath.isEmpty then refuse "Failed to get volume stats: missing volume path"
  else exclusively r.volumeId (statsExclusively r)

end Service

/-! ## All requests -/

inductive Request
  | stage (request : StageRequest)
  | unstage (request : UnstageRequest)
  | publish (request : PublishRequest)
  | unpublish (request : UnpublishRequest)
  | stats (request : StatsRequest)
  | expand
  | capabilities
  | info
  deriving DecidableEq, Repr

/-- The work of a request as logs know it; requests that change nothing are not told of. -/
def Request.span : Request → Option Span
  | .stage r => some (.onVolume .node "node_stage_volume" r.volumeId)
  | .unstage r => some (.onVolume .node "node_unstage_volume" r.volumeId)
  | .publish r => some (.onVolume .node "node_publish_volume" r.volumeId)
  | .unpublish r => some (.onVolume .node "node_unpublish_volume" r.volumeId)
  | .stats _ | .expand | .capabilities | .info => none

inductive Answer
  | done
  | stats (stats : Stats)
  | capabilities (numbers : List Int)
  | info (info : Info)
  deriving DecidableEq, Repr

/-- Answers a request. Quotas apply as soon as the controller sets them, so a node has nothing
to expand. -/
def Request.answer (clusters : Clusters) (info : Info) : Request → Work Status Answer
  | .stage r => do Service.stage clusters r; return .done
  | .unstage r => do Service.unstage r; return .done
  | .publish r => do Service.publish r; return .done
  | .unpublish r => do Service.unpublish r; return .done
  | .stats r => do return .stats (← Service.stats r)
  | .expand => throw ⟨.unimplemented, "Not implemented"⟩
  | .capabilities => return .capabilities Csi.nodeOffers
  | .info => return .info info

end FuseVolumes.Node
