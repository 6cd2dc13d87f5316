import FuseVolumes.Engine.Command
import FuseVolumes.Node.MountPoint
import FuseVolumes.Orchestrator.Metadata
import FuseVolumes.Recovery.PodIndex

/-! Plans for rebuilding the mounts of a node. Every volume that is attached to the node and used
by a pod on it gets a plan, which names the volume, the secret values to mount it with, and its
pods. A volume without a plan is counted at once. -/

namespace FuseVolumes.Recovery

open Orchestrator (Metadata.Error)

/-- Why the mounts of a volume, or of the whole node, could not be rebuilt. -/
inductive Error
  | metadata (cause : Orchestrator.Metadata.Error)
  | missingSource (name : String)
  | secretReference (name : String) (cause : Secret.Error)
  | secretUnavailable (secret : Secret.Reference)
  | volume (cause : Volume.Error)
  | mountPoint (cause : Node.MountPointError)
  | bindMount (cause : Mount.Error)
  | engine (cause : Engine.Error)
  deriving DecidableEq, Repr

def Error.message : Error → String
  | .metadata cause => cause.message
  | .missingSource name => s!"Persistent volume '{name}' has no CSI source"
  | .secretReference name cause =>
    s!"Secret reference of persistent volume '{name}': {cause.message}"
  | .secretUnavailable secret => s!"Secret '{secret.display}' is not available"
  | .volume cause => cause.message
  | .mountPoint cause => cause.message
  | .bindMount cause => cause.message
  | .engine cause => cause.message

/-- What became of a volume. -/
inductive Outcome
  | recovered
  | failed
  | skipped
  deriving DecidableEq, Repr

/-- What it takes to rebuild the mounts of a volume. -/
structure Plan where
  persistentVolume : String
  volume : Volume
  secrets : Dict
  mountOptions : List String
  pods : List PodMount
  deriving DecidableEq, Repr

/-- The node and driver to recover for, and the clusters of its volumes. -/
structure Scope where
  node : String
  driver : String
  root : String
  clusters : Clusters
  deriving Repr

/-- Secrets fetched so far; nothing stands for one that could not be had. -/
abbrev SecretCache := List (Secret.Reference × Option Dict)

/-- What planning carries from volume to volume. -/
structure Planning where
  pods : PodIndex
  secrets : SecretCache
  deriving Repr

abbrev Work (α : Type) := Orchestrator.Work Error α

def onMetadata {α : Type} (work : Orchestrator.Work Orchestrator.Metadata.Error α) : Work α :=
  (work.run).orFail .metadata

/-! ## Secrets -/

/-- The secret that a storage class names for a volume. -/
def secretOfClass (classes : List (String × Dict)) (name : String)
    (v : Orchestrator.PersistentVolume) : Work (Option Secret.Reference) := do
  match v.className.bind fun name => classes.lookup name with
  | none => return none
  | some parameters =>
    let claim ← match v.claim.bind (·.key?) with
      | some (ns, name) => onMetadata (Orchestrator.Metadata.claim ns name)
      | none => pure none
    Orchestrator.logAll (Secret.stageKeys.warnings parameters)
    match Secret.stageKeys.reference parameters name claim with
    | .ok reference => return reference
    | .error cause => throw (.secretReference name cause)

/-- The secret of a volume: the one it names itself, or else the one its class names. -/
def secretOf (classes : List (String × Dict)) (name : String)
    (v : Orchestrator.PersistentVolume) (source : Orchestrator.DriverSource) :
    Work (Option Secret.Reference) :=
  match source.stageSecret with
  | some reference =>
    return reference.name.map fun secret => ⟨reference.«namespace».getD "", secret⟩
  | none => secretOfClass classes name v

/-- The values of a secret, asked for once. -/
def fetchSecret (cache : SecretCache) (r : Secret.Reference) :
    Program Orchestrator.interface (Option Dict × SecretCache) := do
  match cache.lookup r with
  | some values => return (values, cache)
  | none =>
    match ← (Orchestrator.Metadata.secret r).run with
    | .ok values => return (some values, (r, some values) :: cache)
    | .error e =>
      Orchestrator.log <| (Event.error .recovery "Failed to get secret").beside
        [("secret", r.display), ("error", e.message)]
      return (none, (r, none) :: cache)

/-! ## Plans -/

/-- Plans one volume, whose pods are used up by it. Nothing is planned for a volume without pods
or without a secret. -/
def planVolume (scope : Scope) (classes : List (String × Dict)) (v : Orchestrator.PersistentVolume)
    (p : Planning) : Program Orchestrator.interface (Except Error (Option Plan) × Planning) := do
  let name := v.name.getD ""
  match v.source with
  | none => return (.error (.missingSource name), p)
  | some source =>
    let claim := v.claim.bind (·.key?)
    let pods := p.pods.pods claim
    let p := { p with pods := p.pods.remove claim }
    if pods.isEmpty then return (.ok none, p)
    match ← (secretOf classes name v source).run with
    | .error e => return (.error e, p)
    | .ok none =>
      Orchestrator.log <| (Event.warn .recovery "No node stage secret, skipping").beside
        [("pv", name)]
      return (.ok none, p)
    | .ok (some reference) =>
      let (values, secrets) ← fetchSecret p.secrets reference
      let p := { p with secrets }
      match values with
      | none => return (.error (.secretUnavailable reference), p)
      | some values =>
        match Volume.resolve source.handle source.attributes scope.clusters with
        | .error e => return (.error (.volume e), p)
        | .ok volume => return (.ok (some ⟨name, volume, values, v.mountOptions, pods⟩), p)

/-- A volume that was counted at once, or its plan. -/
inductive Prepared
  | counted (outcome : Outcome)
  | planned (plan : Plan)
  deriving Repr

/-- Plans one volume after the other. -/
def planAll (scope : Scope) (classes : List (String × Dict)) :
    List Orchestrator.PersistentVolume → Planning →
    Program Orchestrator.interface (List Prepared)
  | [], _ => return []
  | v :: rest, p => do
    let (result, p) ← planVolume scope classes v p
    let prepared ← match result with
      | .ok (some plan) => pure (.planned plan)
      | .ok none => pure (.counted .skipped)
      | .error e =>
        Orchestrator.log <| (Event.error .recovery "Failed to prepare volume recovery").beside
          [("pv", v.name.getD ""), ("error", e.message)]
        pure (.counted .failed)
    return prepared :: (← planAll scope classes rest p)

/-- Plans all volumes attached to the node. Only a failure to list objects ends it. -/
def prepare (scope : Scope) : Work (List Prepared) := do
  let volumes ← onMetadata (Orchestrator.Metadata.attachedVolumes scope.node scope.driver)
  if volumes.isEmpty then
    Orchestrator.log (.info .recovery "No attached volumes to recover")
    return []
  let classes ← onMetadata (Orchestrator.Metadata.storageClasses scope.driver)
  let pods ← onMetadata (Orchestrator.Metadata.podsOnNode scope.node)
  let classes := (classes.filterMap fun c => c.name.map (·, c.parameters)).reverse
  planAll scope classes volumes ⟨.ofPods pods, []⟩

end FuseVolumes.Recovery
