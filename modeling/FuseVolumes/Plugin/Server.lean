import FuseVolumes.Controller.Service
import FuseVolumes.Csi.Identity
import FuseVolumes.Node.Machine
import FuseVolumes.Node.Service
import FuseVolumes.Plugin.Settings

/-! The programs while they serve. The controller and the node have an identity and a part of
the storage interface each; the proxy mounts volumes for a node. All use the tools of the host
they run on. -/

namespace FuseVolumes.Plugin

open Node (Machine)

inductive Server
  | controller (driver : String) (clusters : Clusters)
  | node (driver : String) (clusters : Clusters) (info : Node.Info) (fuseMode : FuseMode)
  | proxy
  deriving Repr

inductive Request
  | identity
  | controller (request : Controller.Request)
  | node (request : Node.Request)
  | mount (request : Engine.MountRequest)
  deriving Repr

inductive Answer
  | identity (identity : Csi.Identity)
  | controller (answer : Controller.Answer)
  | node (answer : Node.Answer)
  /-- What the tool printed. -/
  | mounted (output : String)
  deriving Repr

/-- The fuse mounts of a node. -/
def FuseMode.mounter : FuseMode → Machine.FuseMounter
  | .direct => Machine.engineMount Engine.Bench.hosted (Engine.Fuse.mountDirectly Engine.basePath)
  | .proxied endpoint _ =>
    Machine.engineMount Engine.Bench.hosted (Engine.Fuse.mountThroughProxy endpoint Engine.basePath)

/-- The work of a request as logs know it. -/
def Request.span : Request → Option Span
  | .identity => none
  | .controller r => r.span
  | .node r => r.span
  | .mount _ => some ⟨.proxy, "mount_fcfs_fused", []⟩

/-- A machine on which what it did not log `before` happened during some work. -/
def logDuring (span : Option Span) (before m : Machine) : Machine :=
  match span with
  | some span =>
    let scene := m.bench.scene.logDuring before.bench.scene.events.length span
    { m with bench := { m.bench with scene } }
  | none => m

namespace Server

/-- The driver a program is the plugin of. -/
def driver? : Server → Option String
  | .controller driver _ => some driver
  | .node driver _ _ _ => some driver
  | .proxy => none

/-- Work on the engine of the machine. -/
def onEngine {α : Type} (m : Machine) (work : Engine.Work Status α) : Except Status α × Machine :=
  let (answer, bench) := m.bench.runHosted work
  (answer, { m with bench })

def answerIdentity (s : Server) : Except Status Answer :=
  match s.driver? with
  | some driver => .ok (.identity (.ofDriver driver))
  | none => .error .unserved

/-- Answers as a service of the process itself. -/
def perform (s : Server) (r : Request) (m : Machine) : Except Status Answer × Machine :=
  match s, r with
  | s, .identity => (s.answerIdentity, m)
  | .controller _ clusters, .controller r =>
    let (answer, m) := onEngine m (r.answer clusters)
    (answer.map .controller, m)
  | .node _ clusters info fuseMode, .node r =>
    let (answer, m) := (r.answer clusters info).run.run (Machine.handleHost fuseMode.mounter) m
    (answer.map .node, m)
  | .proxy, .mount r =>
    let (answer, m) := onEngine m (Engine.Fuse.serve r)
    (answer.map .mounted, m)
  | _, _ => (.error .unserved, m)

/-- Answers a caller in another process. -/
def answer (s : Server) (r : Request) (m : Machine) : Except Status Answer × Machine :=
  let (answer, after) := s.perform r m
  (answer.mapError Status.delivered, logDuring r.span m after)

end Server

end FuseVolumes.Plugin
