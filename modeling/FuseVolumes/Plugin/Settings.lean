import FuseVolumes.CommandLine.Parser
import FuseVolumes.Host.Configuration
import FuseVolumes.Host.Kernel
import FuseVolumes.Text.Duration
import FuseVolumes.Text.Integer

/-! What the programs are set to do, made from their command lines and the list of clusters. Of
several faults the first in the order of the settings counts. -/

namespace FuseVolumes.Plugin

open CommandLine (Matches)

/-- Why a program cannot work as it is told. -/
inductive SettingsError
  | missing (what : String)
  | emptyNodeName
  | clusters (path : String) (cause : Clusters.Error)
  | duration (fault : Text.Duration.Fault)
  | integer (name : String) (cause : Text.IntegerError)
  | negativeMaxVolumes
  deriving DecidableEq, Repr

namespace SettingsError

/-- The words of the reader of time spans stand as `<duration error>`. -/
def message : SettingsError → String
  | missing what => s!"{what} must be specified"
  | emptyNodeName => "node-name must not be empty"
  | clusters path _ => s!"Failed to load the cluster configuration {path}"
  | duration _ => "<duration error>"
  | integer name cause => s!"Invalid value for {name}: {cause.message}"
  | negativeMaxVolumes => "max-volumes-per-node must not be negative"

/-- The message of the error behind this one. -/
def cause? : SettingsError → Option String
  | clusters _ cause => some cause.message
  | _ => none

end SettingsError

/-- Work that makes settings, on a host and into its log. -/
abbrev Loading (α : Type) := ExceptT SettingsError (StateM Host.Scene) α

def require (value : Option String) (what : String) : Loading String :=
  match value with
  | some text => return text
  | none => throw (.missing what)

def loadClusters (path : String) : Loading Clusters := do
  let scene ← get
  let (result, events) := scene.tree.loadClusters path
  set (events.foldl Host.Scene.log scene)
  match result with
  | .ok clusters => return clusters
  | .error e => throw (.clusters path e)

def readNumber (name text : String) (read : List Char → Except Text.IntegerError Int) :
    Loading Int :=
  match read text.toList with
  | .ok n => return n
  | .error e => throw (.integer name e)

/-! ## The controller -/

structure ControllerSettings where
  driver : String
  clusters : Clusters
  timeout : Text.Duration
  deriving DecidableEq, Repr

def ControllerSettings.load (m : Matches) : Loading ControllerSettings := do
  let driver ← require (m.value? "driver-name") "driver name"
  let path ← require (m.value? "cluster-config") "cluster configuration"
  let clusters ← loadClusters path
  let timeout ← require (m.value? "timeout") "I/O timeout"
  match Text.Duration.parse timeout with
  | .ok timeout => return ⟨driver, clusters, timeout⟩
  | .error fault => throw (.duration fault)

/-! ## The node -/

/-- Who runs the fuse daemons: the node itself, or a proxy on the node that has so many seconds
to accept a connection. -/
inductive FuseMode
  | direct
  | proxied (endpoint : String) (seconds : Int)
  deriving DecidableEq, Repr

structure NodeSettings where
  node : String
  driver : String
  clusters : Clusters
  domainLabels : String
  maxVolumes : Int
  kubeletRoot : String
  fuseMode : FuseMode
  recovery : Bool
  deriving DecidableEq, Repr

namespace NodeSettings

def maxVolumesName : String := "max-volumes-per-node"
def proxySwitch : String := "enable-fcfsfused-proxy"
def proxyEndpointName : String := "fcfsfused-proxy-endpoint"
def proxyTimeoutName : String := "fcfsfused-proxy-conn-timeout"

def need (m : Matches) (name : String) : Loading String := require (m.value? name) name

def loadNode (m : Matches) : Loading String := do
  let node ← need m "node-name"
  if node.isEmpty then throw .emptyNodeName
  return node

/-- A limit on volumes, where zero is none. -/
def loadMaxVolumes (m : Matches) : Loading Int := do
  let n ← readNumber maxVolumesName (← need m maxVolumesName) Text.readInt64
  if n < 0 then throw .negativeMaxVolumes
  return n

/-- The options of the proxy matter only if it is enabled. -/
def loadFuseMode (m : Matches) : Loading FuseMode := do
  if ! m.isSwitched proxySwitch then return .direct
  let seconds ← readNumber proxyTimeoutName (← need m proxyTimeoutName) Text.readUInt64
  return .proxied (← need m proxyEndpointName) seconds

def load (m : Matches) : Loading NodeSettings := do
  let node ← loadNode m
  let clusters ← loadClusters (← need m "cluster-config")
  let maxVolumes ← loadMaxVolumes m
  let fuseMode ← loadFuseMode m
  return {
    node, clusters, maxVolumes, fuseMode
    driver := ← need m "driver-name"
    domainLabels := (m.value? "domain-labels").getD ""
    kubeletRoot := ← need m "kubelet-dir"
    recovery := ! m.isSwitched "skip-recovery" }

end NodeSettings

end FuseVolumes.Plugin
