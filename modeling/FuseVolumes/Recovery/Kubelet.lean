import FuseVolumes.Path

/-! Where the kubelet keeps the mounts of volumes: one for the node, one for every pod, and one
for every container that mounts a path below a volume. -/

namespace FuseVolumes.Recovery.Kubelet

def defaultRoot : String := "/var/lib/kubelet"

/-- The staging path of a volume. -/
def globalMount (root volume : String) : String :=
  Path.joinAll root ["plugins/kubernetes.io/csi/pv", volume, "globalmount"]

/-- The path on which a volume is published to a pod. -/
def podVolume (root uid volume : String) : String :=
  Path.joinAll root ["pods", uid, "volumes/kubernetes.io~csi", volume, "mount"]

/-- The path of a container's mount below a volume of its pod. -/
def subPath (root uid volume container : String) (index : Nat) : String :=
  Path.joinAll root ["pods", uid, "volume-subpaths", volume, container, toString index]

end FuseVolumes.Recovery.Kubelet
