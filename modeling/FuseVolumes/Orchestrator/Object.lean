import FuseVolumes.Dict
import FuseVolumes.Text.Utf8

/-! The orchestrator's objects, as far as a storage driver reads them. -/

namespace FuseVolumes.Orchestrator

structure NodeObject where
  labels : Dict
  deriving DecidableEq, Repr

/-- That a volume is, or is to be, attached to a node by some driver. -/
structure Attachment where
  node : String
  attacher : String
  volume : Option String
  attached : Bool
  deriving DecidableEq, Repr

/-- A reference to an object, of which any part may be missing. -/
structure ObjectReference where
  name : Option String
  «namespace» : Option String
  deriving DecidableEq, Repr

/-- Namespace and name, if both are there. -/
def ObjectReference.key? (r : ObjectReference) : Option (String × String) :=
  match r.«namespace», r.name with
  | some ns, some name => some (ns, name)
  | _, _ => none

/-- Where a persistent volume comes from, if a storage driver provides it. -/
structure DriverSource where
  driver : String
  handle : String
  attributes : Dict
  stageSecret : Option ObjectReference
  deriving DecidableEq, Repr

structure PersistentVolume where
  name : Option String
  source : Option DriverSource
  claim : Option ObjectReference
  className : Option String
  mountOptions : List String
  deriving DecidableEq, Repr

structure StorageClass where
  name : Option String
  provisioner : String
  parameters : Dict
  deriving DecidableEq, Repr

structure ClaimObject where
  annotations : Dict
  deriving DecidableEq, Repr

/-! ## Pods -/

/-- One mount of a container: a volume of the pod, or a path below it. -/
structure VolumeMount where
  volume : String
  subPath : Option String
  deriving DecidableEq, Repr

structure Container where
  name : String
  mounts : List VolumeMount
  deriving DecidableEq, Repr

/-- The claim behind a volume of a pod. -/
structure ClaimSource where
  claim : String
  readOnly : Bool
  deriving DecidableEq, Repr

structure PodVolume where
  name : String
  claim : Option ClaimSource
  deriving DecidableEq, Repr

structure PodSpec where
  node : Option String
  volumes : List PodVolume
  initContainers : List Container
  containers : List Container
  deriving DecidableEq, Repr

structure Pod where
  name : Option String
  uid : Option String
  «namespace» : Option String
  phase : Option String
  spec : Option PodSpec
  deriving DecidableEq, Repr

/-- A pod that has run to its end. -/
def Pod.isTerminated (p : Pod) : Bool :=
  p.phase == some "Succeeded" || p.phase == some "Failed"

/-! ## Secrets -/

/-- A secret, with octets under some keys and plain text under others. -/
structure SecretObject where
  data : List (String × List UInt8)
  stringData : Dict
  deriving DecidableEq, Repr

/-- The values of a secret, plain text before octets. -/
def SecretObject.values (s : SecretObject) : Dict :=
  Dict.insertAll (Dict.insertAll [] (s.data.map fun (key, octets) => (key, .ofList (Text.lossy octets))))
    s.stringData

end FuseVolumes.Orchestrator
