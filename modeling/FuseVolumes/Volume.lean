import FuseVolumes.Capacity
import FuseVolumes.Clusters
import FuseVolumes.Dict
import FuseVolumes.Handle
import FuseVolumes.Status

/-! Volumes as the storage engine sees them, made from a request to create one, from a handle,
or from the context of a volume that was set up by hand. -/

namespace FuseVolumes

structure Volume where
  id : String
  /-- The name in the pool. -/
  name : String
  cluster : String
  /-- The URL below which the cluster's client files are served. -/
  baseUrl : String
  capacity : Int
  /-- Set up by hand, and mounted as a user of its own. -/
  preProvisioned : Bool
  deriving DecidableEq, Repr

namespace Volume

def clusterParameter : String := "clusterID"
def staticParameter : String := "static"

inductive Error
  | missingClusterId
  | invalidVolumeId (id : String) (cause : Handle.DecodeError)
  | composeVolumeId (name : String) (cause : Handle.TooLong)
  | nonStaticVolume (id : String)
  | invalidStaticFlag (value : String)
  | cluster (cause : Clusters.Error)
  deriving DecidableEq, Repr

def Error.message : Error → String
  | .missingClusterId => "clusterID must be set"
  | .invalidVolumeId id cause => s!"Invalid volume id '{id}': {cause.message id}"
  | .composeVolumeId name cause =>
    s!"Failed to compose the volume id of '{name}': {cause.message}"
  | .nonStaticVolume id => s!"Volume '{id}' is not statically provisioned"
  | .invalidStaticFlag value => s!"Failed to parse the 'static' flag '{value}'"
  | .cluster cause => cause.message

def Error.status (e : Error) : Status :=
  match e with
  | .cluster _ => ⟨.failedPrecondition, e.message⟩
  | _ => ⟨.invalidArgument, e.message⟩

def poolUrl (v : Volume) : String := v.baseUrl ++ Clusters.poolFile
def fuseUrl (v : Volume) : String := v.baseUrl ++ Clusters.fuseFile

def clusterUrl (clusters : Clusters) (id : String) : Except Error String :=
  (clusters.url id).mapError .cluster

/-- The name in the pool of a volume that is created for a request. -/
def poolName (request : String) : String := "csi-vol-" ++ request

/-- A volume about to be created for its owner. -/
def ofRequest (request : String) (parameters : Dict) (required : Int) (owner : String)
    (clusters : Clusters) : Except Error Volume :=
  match parameters.filled? clusterParameter with
  | none => .error .missingClusterId
  | some cluster => do
    let id ← (Handle.encode ⟨cluster, owner, poolName request⟩).mapError
      (.composeVolumeId request)
    let url ← clusterUrl clusters cluster
    return ⟨id, poolName request, cluster, url, Capacity.roundUp required, false⟩

/-- The volume of a handle. -/
def ofHandle (id : String) (required : Option Int) (clusters : Clusters) :
    Except Error Volume := do
  let handle ← (Handle.decode id).mapError (.invalidVolumeId id)
  let url ← clusterUrl clusters handle.cluster
  return ⟨id, handle.volume, handle.cluster, url, required.getD 0, false⟩

/-- The spellings of a flag. -/
def flag? (value : String) : Option Bool :=
  if ["1", "t", "T", "true", "TRUE", "True"].contains value then some true
  else if ["0", "f", "F", "false", "FALSE", "False"].contains value then some false
  else none

/-- Whether a context is of a volume set up by hand. -/
def isStatic (context : Dict) : Except Error Bool :=
  match context.get? staticParameter with
  | none => .ok false
  | some value =>
    match flag? value with
    | some b => .ok b
    | none => .error (.invalidStaticFlag value)

/-- A volume set up by hand, whose id is its name in the pool. -/
def ofStatic (id : String) (context : Dict) (clusters : Clusters) : Except Error Volume := do
  if ! (← isStatic context) then throw (.nonStaticVolume id)
  match context.filled? clusterParameter with
  | none => throw .missingClusterId
  | some cluster =>
    let url ← clusterUrl clusters cluster
    return ⟨id, id, cluster, url, 0, true⟩

/-- A volume about to be mounted. An id that is no handle is looked up as one set up by
hand. -/
def resolve (id : String) (context : Dict) (clusters : Clusters) : Except Error Volume :=
  match ofHandle id none clusters with
  | .error (.invalidVolumeId _ _) => ofStatic id context clusters
  | result => result

end Volume

end FuseVolumes
