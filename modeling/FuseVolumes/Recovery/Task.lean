import FuseVolumes.Node.Service
import FuseVolumes.Recovery.Kubelet
import FuseVolumes.Recovery.Plan

/-! Rebuilding the mounts of one volume: its global mount first, then those of its pods, then
the mounts below them. What fails in one place is told and does not hold up the others. -/

namespace FuseVolumes.Recovery

/-- Work on the node that rebuilds mounts. -/
abbrev Mending (α : Type) := Node.Work Error α

def atMountPoint {α : Type} (work : Node.Work Node.MountPointError α) : Mending α :=
  (work.run).orFail .mountPoint

def bindMount (source target : String) (options : List String) : Mending Unit :=
  (Node.ask (.bindMount source target options)).orFail .bindMount

def tell (event : Event) : Program Node.interface Unit := Node.log event

/-- The options of a pod's mount. -/
def podOptions (plan : Plan) (pod : PodMount) : List String :=
  Mount.unionOptions Mount.bindOptions plan.mountOptions ++ if pod.readOnly then ["ro"] else []

/-- Restores one mount below a pod's mount. -/
def mendSubMount (root target : String) (pod : PodMount) (sub : SubMount) : Mending Unit := do
  let path := Kubelet.subPath root pod.uid pod.volume sub.container sub.index
  if ! (← atMountPoint (Node.MountPoint.ensure path)) then
    bindMount (Path.join target sub.subPath) path ["bind"]

/-- Restores the mounts below a pod's mount, each on its own. -/
def mendSubMounts (root target : String) (pod : PodMount) :
    List SubMount → Program Node.interface Unit
  | [] => return ()
  | sub :: rest => do
    match ← (mendSubMount root target pod sub).run with
    | .ok () => pure ()
    | .error e =>
      tell <| (Event.error .recovery "Failed to recover sub-path mount").beside
        [("pod.uid", pod.uid), ("container", sub.container), ("error", e.message)]
    mendSubMounts root target pod rest

/-- Restores the mounts of one pod. -/
def mendPod (root : String) (plan : Plan) (pod : PodMount) : Mending Unit := do
  let target := Kubelet.podVolume root pod.uid plan.persistentVolume
  if ! (← atMountPoint (Node.MountPoint.ensure target)) then
    bindMount (Kubelet.globalMount root plan.persistentVolume) target (podOptions plan pod)
    tell <| (Event.info .recovery "Restored pod mount").beside
      [("pod.uid", pod.uid), ("path", target)]
  mendSubMounts root target pod pod.subMounts

/-- Restores the mounts of the pods, each on its own. -/
def mendPods (root : String) (plan : Plan) : List PodMount → Program Node.interface Unit
  | [] => return ()
  | pod :: rest => do
    match ← (mendPod root plan pod).run with
    | .ok () => pure ()
    | .error e =>
      tell <| (Event.error .recovery "Failed to recover pod mount").beside
        [("pod.uid", pod.uid), ("error", e.message)]
    mendPods root plan rest

/-- Restores the global mount of the volume unless it answers, and then its pods. -/
def mendVolume (root : String) (plan : Plan) : Mending Unit := do
  let path := Kubelet.globalMount root plan.persistentVolume
  if ! (← atMountPoint (Node.MountPoint.ensure path)) then
    tell <| (Event.info .recovery "Remounting global mount").beside [("path", path)]
    (Node.ask (.fuseMount plan.volume path plan.secrets)).orFail .engine
  mendPods root plan plan.pods

/-- Recovers a volume, unless some operation on it is in progress. -/
def recover (root : String) (plan : Plan) : Program Node.interface Outcome := do
  if ← Node.ask (.reserve plan.volume.id) then
    let result ← (mendVolume root plan).run
    Node.ask (.release plan.volume.id)
    match result with
    | .ok () => return .recovered
    | .error e =>
      tell <| (Event.error .recovery "Failed to recover volume").beside
        [("pv", plan.persistentVolume), ("error", e.message)]
      return .failed
  else
    tell (.warn .recovery "Volume is busy, skipping")
    return .skipped

end FuseVolumes.Recovery
