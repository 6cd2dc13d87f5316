import FuseVolumes.CommandLine.Options
import FuseVolumes.Orchestrator.Store
import FuseVolumes.Plugin.ControllerProcess
import FuseVolumes.Recovery.Pass
import FuseVolumes.Topology

/-! Starting the three programs. A program reads its command line, begins its log, makes its
settings, and listens on its socket; from then on it serves. -/

namespace FuseVolumes.Plugin

open CommandLine (Matches)
open Node (Machine)
open Orchestrator (Session)

/-- Why a program ended before it served. -/
inductive Failure
  | error (message : String)
  | crash (cause : Misuse)
  /-- The log filter has a part that starts or ends within a character. -/
  | splitCharacter
  deriving DecidableEq, Repr

def ConfigureError.failure : ConfigureError → Failure
  | .misuse cause => .crash cause
  | .settings cause => .error cause.message

def ServeError.failure : ServeError → Failure
  | .misuse cause => .crash cause
  | .listen cause => .error ("error: " ++ cause.message)

/-- Work of a program that starts on a machine. -/
abbrev Starting (α : Type) := ExceptT Failure (StateM Machine) α

def tell (event : Event) : Starting Unit := modify (·.log event)

def refuse {α : Type} (message : String) : Starting α := throw (.error message)

/-- Work on the files and the log of the machine. -/
def atScene {ε α : Type} (words : ε → String) (work : Host.Scene → Except ε α × Host.Scene) :
    Starting α := do
  let m ← get
  let (result, scene) := work m.bench.scene
  set { m with bench := { m.bench with scene } }
  match result with
  | .ok a => return a
  | .error e => refuse (words e)

def listen (endpoint : String) : Starting Unit :=
  atScene Host.ListenError.message (Host.Scene.listen · endpoint)

/-! ## The controller -/

/-- Steps of the controller's process, each of which may fail. -/
def startController (found : Matches) (m : Machine) : Except Failure Server × Machine :=
  match (ControllerProcess.start m).configure found with
  | (.error e, p) => (.error e.failure, p.machine)
  | (.ok settings, p) =>
    let p := p.log <| .info .controllerProgram
      s!"Starting FastCFS CSI Controller, driver = {settings.driver}"
    let (result, p) := p.serve (found.text "csi-socket")
    (result.mapError ServeError.failure, p.machine)

/-! ## The node -/

/-- A node asks its orchestrator for its labels and for what it takes to recover. -/
def NodeSettings.needsOrchestrator (s : NodeSettings) : Bool :=
  ! s.domainLabels.isEmpty || s.recovery

/-- The orchestrator, if it is needed. -/
def connect (s : NodeSettings) (orchestrator : Option Session) : Starting (Option Session) :=
  match s.needsOrchestrator, orchestrator with
  | false, _ => return none
  | true, some session => return some session
  | true, none => refuse (Orchestrator.Metadata.Error.api "kubernetes client" .failed).message

/-- The topology from the labels of the node. -/
def nodeTopology (s : NodeSettings) (session : Session) : Starting Dict :=
  if s.domainLabels.isEmpty then return []
  else
    match (session.run (Orchestrator.Metadata.nodeLabels s.node)).1 with
    | .error e => refuse e.message
    | .ok labels =>
      match Topology.ofNode s.domainLabels s.driver s.node labels with
      | .error e => refuse e.message
      | .ok topology => return topology

def segmentsText (topology : Dict) : String :=
  "\x7b" ++ ", ".intercalate (topology.map fun (label, value) =>
    s!"{Text.quoted label}: {Text.quoted value}") ++ "\x7d"

/-- Rebuilds the mounts of the node. If that fails, the node serves nevertheless. -/
def recover (s : NodeSettings) (session : Session) : Starting Unit := do
  let (result, session, m) := Recovery.pass (Machine.handleHost s.fuseMode.mounter)
    ⟨s.node, s.driver, s.kubeletRoot, s.clusters⟩ session (← get)
  set (session.events.foldl Machine.log m)
  match result with
  | .ok _ => return ()
  | .error e => tell ((Event.error .nodeStart "Mount recovery failed").beside [("error", e.message)])

/-- What a node says of its fuse daemons. -/
def tellFuseMode : FuseMode → Starting Unit
  | .direct => return ()
  | .proxied endpoint _ =>
    tell <| (Event.info .nodeStart "Mounting volumes through the fcfsfused proxy").beside
      [("endpoint", endpoint)]

def beginNode (found : Matches) (orchestrator : Option Session) : Starting Server := do
  let s ← atScene SettingsError.message (NodeSettings.load found).run
  let session ← connect s orchestrator
  let topology ← match session with
    | some session => nodeTopology s session
    | none => pure []
  tellFuseMode s.fuseMode
  let endpoint := found.text "csi-socket"
  listen endpoint
  tell (.info .nodeStart s!"CSI plugin bound to {endpoint}")
  tell (.info .node s!"Node topology segments: {segmentsText topology}")
  match session with
  | some session => if s.recovery then recover s session
  | none => pure ()
  return .node s.driver s.clusters ⟨s.node, s.maxVolumes, topology⟩ s.fuseMode

/-- A node that is a program of its own says why it ends. -/
def startNode (found : Matches) (embedded : Bool) (orchestrator : Option Session) (m : Machine) :
    Except Failure Server × Machine :=
  match (beginNode found orchestrator).run m with
  | (.error (.error message), m) =>
    let m := if embedded then m
      else m.log ((Event.error .nodeProgram "Terminated with error").beside [("error", message)])
    (.error (.error message), m)
  | result => result

/-! ## The proxy -/

def beginProxy (found : Matches) : Starting Server := do
  let endpoint := found.text "endpoint"
  listen endpoint
  tell (.info .proxyProgram s!"fcfsfused proxy listening on {endpoint}")
  return .proxy

end FuseVolumes.Plugin
