import FuseVolumes.Orchestrator.Schema.Common

/-! Shapes of what is behind a volume: the sources that persistent volumes and volumes of pods
have in common, and those that only one of them has. -/

namespace FuseVolumes.Orchestrator.Shape

/-! ## Sources of both -/

/-- Sources that name no secret. -/
def plainSources : List (String × Shape) :=
  [("awsElasticBlockStore",
      record (texts ["fsType", "volumeID"] ++ [("partition", int32), ("readOnly", flag)])),
    ("azureDisk",
      record (texts ["cachingMode", "diskName", "diskURI", "fsType", "kind"] ++ flags ["readOnly"])),
    ("fc",
      record (texts ["fsType"] ++ flags ["readOnly"] ++ [("lun", int32)]
        ++ each (list text) ["targetWWNs", "wwids"])),
    ("flocker", record (texts ["datasetName", "datasetUUID"])),
    ("gcePersistentDisk",
      record (texts ["fsType", "pdName"] ++ [("partition", int32), ("readOnly", flag)])),
    ("hostPath", record (texts ["path", "type"])),
    ("nfs", record (texts ["path", "server"] ++ flags ["readOnly"])),
    ("photonPersistentDisk", record (texts ["fsType", "pdID"])),
    ("portworxVolume", record (texts ["fsType", "volumeID"] ++ flags ["readOnly"])),
    ("quobyte",
      record (texts ["group", "registry", "tenant", "user", "volume"] ++ flags ["readOnly"])),
    ("vsphereVolume",
      record (texts ["fsType", "storagePolicyID", "storagePolicyName", "volumePath"]))]

/-- Sources that name a secret by a reference of the given shape. -/
def guardedSources (reference : Shape) : List (String × Shape) :=
  [("cephfs",
      record (texts ["path", "secretFile", "user"] ++ flags ["readOnly"]
        ++ [("monitors", list text), ("secretRef", reference)])),
    ("cinder",
      record (texts ["fsType", "volumeID"] ++ flags ["readOnly"] ++ [("secretRef", reference)])),
    ("flexVolume",
      record (texts ["driver", "fsType"] ++ flags ["readOnly"]
        ++ [("options", dict text), ("secretRef", reference)])),
    ("iscsi",
      record (texts ["fsType", "initiatorName", "iqn", "iscsiInterface", "targetPortal"]
        ++ flags ["chapAuthDiscovery", "chapAuthSession", "readOnly"]
        ++ [("lun", int32), ("portals", list text), ("secretRef", reference)])),
    ("rbd",
      record (texts ["fsType", "image", "keyring", "pool", "user"] ++ flags ["readOnly"]
        ++ [("monitors", list text), ("secretRef", reference)])),
    ("scaleIO",
      record (texts ["fsType", "gateway", "protectionDomain", "storageMode", "storagePool", "system",
          "volumeName"]
        ++ flags ["readOnly", "sslEnabled"] ++ [("secretRef", reference)]))]

/-- A source of which the secret's reference alone differs. -/
def storageOs (reference : Shape) : List (String × Shape) :=
  [("storageos",
    record (texts ["fsType", "volumeName", "volumeNamespace"] ++ flags ["readOnly"]
      ++ [("secretRef", reference)]))]

/-! ## Persistent volumes -/

def driverSource : Shape :=
  record (texts ["driver", "fsType", "volumeHandle"] ++ flags ["readOnly"]
    ++ [("volumeAttributes", dict text)]
    ++ each secretReference ["controllerExpandSecretRef", "controllerPublishSecretRef",
      "nodePublishSecretRef", "nodeStageSecretRef"])

def persistentVolumeSpec : Shape :=
  record (texts ["persistentVolumeReclaimPolicy", "storageClassName", "volumeMode"]
    ++ each (list text) ["accessModes", "mountOptions"]
    ++ [("capacity", dict quantity), ("claimRef", objectReference), ("csi", driverSource),
      ("azureFile",
        record (texts ["secretName", "secretNamespace", "shareName"] ++ flags ["readOnly"])),
      ("glusterfs", record (texts ["endpoints", "endpointsNamespace", "path"] ++ flags ["readOnly"])),
      ("local", record (texts ["fsType", "path"])),
      ("nodeAffinity", record [("required", nodeSelector)])]
    ++ plainSources ++ guardedSources secretReference ++ storageOs objectReference)

/-! ## Volumes of pods -/

def keyToPath : Shape := record (texts ["key", "path"] ++ [("mode", int32)])

def fieldSelector : Shape := record (texts ["apiVersion", "fieldPath"])

def resourceFieldSelector : Shape :=
  record (texts ["containerName", "resource"] ++ [("divisor", quantity)])

def downwardFile : Shape :=
  record [("fieldRef", fieldSelector), ("mode", int32), ("path", text),
    ("resourceFieldRef", resourceFieldSelector)]

/-- Some entries of a map of the pod's namespace, which may be allowed to be missing. -/
def projection : Shape :=
  record [("items", list keyToPath), ("name", text), ("optional", flag)]

def projectedSource : Shape :=
  record [("configMap", projection), ("secret", projection),
    ("downwardAPI", record [("items", list downwardFile)]),
    ("serviceAccountToken", record (texts ["audience", "path"] ++ [("expirationSeconds", int64)]))]

def podVolume : Shape :=
  record ([("name", text),
      ("azureFile", record (texts ["secretName", "shareName"] ++ flags ["readOnly"])),
      ("configMap",
        record [("defaultMode", int32), ("items", list keyToPath), ("name", text), ("optional", flag)]),
      ("csi",
        record (texts ["driver", "fsType"] ++ flags ["readOnly"]
          ++ [("nodePublishSecretRef", localReference), ("volumeAttributes", dict text)])),
      ("downwardAPI", record [("defaultMode", int32), ("items", list downwardFile)]),
      ("emptyDir", record [("medium", text), ("sizeLimit", quantity)]),
      ("ephemeral",
        record [("readOnly", flag),
          ("volumeClaimTemplate", record [("metadata", objectMeta), ("spec", claimSpec)])]),
      ("gitRepo", record (texts ["directory", "repository", "revision"])),
      ("glusterfs", record (texts ["endpoints", "path"] ++ flags ["readOnly"])),
      ("persistentVolumeClaim", record [("claimName", text), ("readOnly", flag)]),
      ("projected", record [("defaultMode", int32), ("sources", list projectedSource)]),
      ("secret",
        record [("defaultMode", int32), ("items", list keyToPath), ("optional", flag),
          ("secretName", text)])]
    ++ plainSources ++ guardedSources localReference ++ storageOs localReference)

end FuseVolumes.Orchestrator.Shape
