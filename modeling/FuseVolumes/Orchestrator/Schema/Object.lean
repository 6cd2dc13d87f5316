import FuseVolumes.Orchestrator.Schema.Pod

/-! Shapes of the objects other than pods that a storage driver reads. -/

namespace FuseVolumes.Orchestrator.Shape

/-! ## Nodes -/

def nodeConfigSource : Shape :=
  record [("configMap",
    record (texts ["kubeletConfigKey", "name", "namespace", "resourceVersion", "uid"]))]

def taint : Shape := record (texts ["effect", "key", "value"] ++ [("timeAdded", moment)])

def nodeSpec : Shape :=
  record (texts ["externalID", "podCIDR", "providerID"] ++ flags ["unschedulable"]
    ++ [("configSource", nodeConfigSource), ("podCIDRs", list text), ("taints", list taint)])

def nodeInfo : Shape :=
  record (texts ["architecture", "bootID", "containerRuntimeVersion", "kernelVersion",
    "kubeProxyVersion", "kubeletVersion", "machineID", "operatingSystem", "osImage", "systemUUID"])

def nodeConfigStatus : Shape :=
  record (("error", text) :: each nodeConfigSource ["active", "assigned", "lastKnownGood"])

def nodeStatus : Shape :=
  record (each (dict quantity) ["allocatable", "capacity"]
    ++ [("addresses", list (record (texts ["address", "type"]))),
      ("conditions", list (condition ["lastHeartbeatTime", "lastTransitionTime"])),
      ("config", nodeConfigStatus),
      ("daemonEndpoints", record [("kubeletEndpoint", record [("Port", int32)])]),
      ("images", list (record [("names", list text), ("sizeBytes", int64)])),
      ("nodeInfo", nodeInfo), ("phase", text),
      ("volumesAttached", list (record (texts ["devicePath", "name"]))),
      ("volumesInUse", list text)])

def node : Shape := objectOf "v1" "Node" [("spec", nodeSpec), ("status", nodeStatus)]

/-! ## Volumes -/

def attachmentError : Shape := record [("message", text), ("time", moment)]

def attachment : Shape :=
  objectOf "storage.k8s.io/v1" "VolumeAttachment"
    [("spec",
        record (texts ["attacher", "nodeName"]
          ++ [("source", record [("inlineVolumeSpec", persistentVolumeSpec),
            ("persistentVolumeName", text)])])),
      ("status",
        record ([("attached", flag), ("attachmentMetadata", dict text)]
          ++ each attachmentError ["attachError", "detachError"]))]

def persistentVolume : Shape :=
  objectOf "v1" "PersistentVolume"
    [("spec", persistentVolumeSpec), ("status", record (texts ["message", "phase", "reason"]))]

def topologyTerm : Shape :=
  record [("matchLabelExpressions", list (record [("key", text), ("values", list text)]))]

def storageClass : Shape :=
  objectOf "storage.k8s.io/v1" "StorageClass"
    (texts ["provisioner", "reclaimPolicy", "volumeBindingMode"] ++ flags ["allowVolumeExpansion"]
      ++ [("allowedTopologies", list topologyTerm), ("mountOptions", list text),
        ("parameters", dict text)])

/-! ## Claims and secrets -/

def claim : Shape :=
  objectOf "v1" "PersistentVolumeClaim"
    [("spec", claimSpec),
      ("status",
        record [("accessModes", list text), ("capacity", dict quantity),
          ("conditions", list (condition ["lastProbeTime", "lastTransitionTime"])), ("phase", text)])]

def secret : Shape :=
  objectOf "v1" "Secret"
    [("data", dict octets), ("immutable", flag), ("stringData", dict text), ("type", text)]

end FuseVolumes.Orchestrator.Shape
