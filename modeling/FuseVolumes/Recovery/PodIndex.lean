import FuseVolumes.Orchestrator.Object

/-! Which pods use which claim. Pods that have run to their end use none, and a pod that uses a
claim through several volumes is known by the first of them. -/

namespace FuseVolumes.Recovery

open Orchestrator

/-- A mount of a container below a volume: its position among the mounts of the container, and
the path below the volume. -/
structure SubMount where
  container : String
  index : Nat
  subPath : String
  deriving DecidableEq, Repr

/-- A pod that uses a claim through one of its volumes. -/
structure PodMount where
  uid : String
  volume : String
  readOnly : Bool
  subMounts : List SubMount
  deriving DecidableEq, Repr

/-- The mounts of a container below a volume. -/
def containerSubMounts (volume : String) (c : Container) : List SubMount :=
  c.mounts.zipIdx.filterMap fun (mount, index) =>
    if mount.volume ≠ volume then none
    else
      match mount.subPath with
      | none | some "" => none
      | some subPath => some ⟨c.name, index, subPath⟩

/-- The mounts below a volume of all containers, those that run first before the others. -/
def subMounts (spec : PodSpec) (volume : String) : List SubMount :=
  (spec.initContainers ++ spec.containers).flatMap (containerSubMounts volume)

/-- The uses that a pod makes of claims, by namespace and name. -/
def podUses (pod : Pod) : List ((String × String) × PodMount) :=
  match pod.uid, pod.spec with
  | some uid, some spec =>
    if pod.isTerminated then []
    else
      spec.volumes.filterMap fun volume =>
        volume.claim.map fun claim =>
          ((pod.«namespace».getD "", claim.claim),
            ⟨uid, volume.name, claim.readOnly, subMounts spec volume.name⟩)
  | _, _ => []

/-- Adds a pod to others in the order of their uids, unless it is among them. -/
def insertPod (pod : PodMount) : List PodMount → List PodMount
  | [] => [pod]
  | other :: rest =>
    if pod.uid == other.uid then other :: rest
    else if pod.uid < other.uid then pod :: other :: rest
    else other :: insertPod pod rest

/-- The pods of every claim that is in use. -/
abbrev PodIndex := List ((String × String) × List PodMount)

namespace PodIndex

def add : PodIndex → (String × String) → PodMount → PodIndex
  | [], claim, pod => [(claim, [pod])]
  | (other, pods) :: rest, claim, pod =>
    if other == claim then (other, insertPod pod pods) :: rest
    else (other, pods) :: add rest claim pod

def ofPods (pods : List Pod) : PodIndex :=
  (pods.flatMap podUses).foldl (fun index (claim, pod) => index.add claim pod) []

/-- The pods of a claim, if one is named. -/
def pods (index : PodIndex) (claim : Option (String × String)) : List PodMount :=
  match claim with
  | some claim => (index.lookup claim).getD []
  | none => []

/-- The index without a claim. -/
def remove (index : PodIndex) (claim : Option (String × String)) : PodIndex :=
  match claim with
  | some claim => index.filter (·.1 != claim)
  | none => index

end PodIndex

end FuseVolumes.Recovery
