import FuseVolumes.Proofs.Engine.KeyFiles
import FuseVolumes.Proofs.Handle.Reading
import FuseVolumes.Proofs.Node.Source
import FuseVolumes.Proofs.Recovery.Isolation

/-!
# Who volumes are mounted as

A volume that is staged or recovered is mounted as the admin if its handle decodes, and as its own
user if it does not (`Credentials.Kind.ofHandle`). Staging and recovery make fuse mounts of what a
handle resolves to, with the secrets they were given (`stage_fuseMounts`, `recover_fuseMounts`), and
the kind of such a volume is that of the handle (`Credentials.Kind.forVolume_of_resolve`).
-/

namespace FuseVolumes

/-- The credentials that go with a handle. -/
def Credentials.Kind.ofHandle (id : String) : Kind :=
  if (Handle.decode id).isOk then .admin else .user

/-- The flag that a volume carries to where it is mounted tells what its handle tells. -/
theorem Credentials.Kind.forVolume_of_resolve {id : String} {context : Dict} {clusters : Clusters}
    {v : Volume} (h : Volume.resolve id context clusters = .ok v) :
    forVolume v.preProvisioned = ofHandle id := by
  rw [Volume.preProvisioned_of_resolve h, forVolume, ofHandle]
  cases (Handle.decode id).isOk <;> rfl

namespace Node

open Program

/-- Fuse mounts as they are wanted, and any other request. -/
def FuseMounts (wanted : Volume → String → Dict → Prop) : Call → Prop
  | .fuseMount v target secrets => wanted v target secrets
  | _ => True

variable {wanted wanted' : Volume → String → Dict → Prop}

theorem FuseMounts.mono {call : Call} (hc : FuseMounts wanted call)
    (h : ∀ v target secrets, wanted v target secrets → wanted' v target secrets) :
    FuseMounts wanted' call := by
  cases call with
  | fuseMount v target secrets => exact h v target secrets hc
  | _ => trivial

theorem MountPoint.fuseMounts_of_prepares {path : String} {call : Call} (h : Prepares path call) :
    FuseMounts wanted call := by
  cases call <;> trivial

namespace Service

/-- Staging mounts what the volume's id resolves to, with the secrets of the request. -/
theorem stage_fuseMounts (clusters : Clusters) (r : StageRequest) :
    (stage clusters r).run.Within (FuseMounts fun v _ secrets =>
      Volume.resolve r.volumeId r.context clusters = .ok v ∧ secrets = r.secrets) := by
  unfold stage
  split
  · exact fail_within (fun _ => trivial) _ _
  split
  · exact fail_within (fun _ => trivial) _ _
  split
  · exact fail_within (fun _ => trivial) _ _
  · rw [exclusively_run]
    refine ⟨trivial, fun taken _ => ?_⟩
    cases taken with
    | false => trivial
    | true =>
      refine within_bind ?_ fun _ => ⟨trivial, fun _ _ => trivial⟩
      exact stageExclusively_within (fun _ => MountPoint.fuseMounts_of_prepares)
        fun _ resolved => ⟨resolved, rfl⟩

end Service

end Node

namespace Recovery

open Program Node Orchestrator

variable {root : String} {plan : Plan}

/-- Of all mounts of a plan, the first alone is a fuse mount. -/
theorem Plan.works_fuseMounts {r : String × Mending Unit} (h : r ∈ plan.works root) :
    r.2.run.Within (FuseMounts fun v _ secrets => v = plan.volume ∧ secrets = plan.secrets) := by
  rcases List.mem_cons.1 h with rfl | h
  · exact ⟨trivial, fun _ _ => ⟨⟨rfl, rfl⟩, fun _ _ => trivial⟩⟩
  · obtain ⟨pod, -, h⟩ := List.mem_flatMap.1 h
    rcases List.mem_cons.1 h with rfl | h
    · exact within_run_bind (within_orFail (within_request trivial)) fun _ =>
        within_liftM (within_request trivial)
    · obtain ⟨sub, -, rfl⟩ := List.mem_map.1 h
      exact within_orFail (within_request trivial)

theorem restore_fuseMounts {path : String} {mount : Mending Unit}
    {wanted : Volume → String → Dict → Prop} (h : mount.run.Within (FuseMounts wanted)) :
    (restore path mount).run.Within (FuseMounts wanted) := by
  rw [restore_run]
  refine within_bind ((MountPoint.ensure_prepares path).mono
    fun _ => MountPoint.fuseMounts_of_prepares) fun answer => ?_
  match answer with
  | .ok true => trivial
  | .ok false => exact h
  | .error e => trivial

/-- Recovery mounts the volume of the plan with the secrets of the plan. -/
theorem recover_fuseMounts (root : String) (plan : Plan) :
    (recover root plan).Within
      (FuseMounts fun v _ secrets => v = plan.volume ∧ secrets = plan.secrets) := by
  rw [recover_eq]
  refine ⟨trivial, fun taken _ => ?_⟩
  cases taken with
  | false => exact ⟨trivial, fun _ _ => trivial⟩
  | true =>
    exact (obeys_compositional fun _ => trivial).recoverReserved
      (fun r hr => restore_fuseMounts (Plan.works_fuseMounts hr)) ⟨trivial, fun _ _ => trivial⟩

/-- **Own credentials.** Whatever is replied, staging and recovery make fuse mounts with the secrets
that they were given, and such a mount, whether the plugin starts the daemon or has the proxy start
it, is made as the admin if the handle of the volume decodes, and as the volume's user if not. -/
theorem mounted_with_own_credentials :
    (∀ (clusters : Clusters) (r : StageRequest), (Service.stage clusters r).run.Within
      (FuseMounts fun v target secrets => secrets = r.secrets ∧
        Engine.Fuse.MountedAs (.ofHandle r.volumeId) v target)) ∧
    ∀ (scope : Scope) (session : Session) (prepared : List Prepared) (plan : Plan) (root : String),
      (session.run (prepare scope)).1 = .ok prepared → .planned plan ∈ prepared →
      ∃ v ∈ scope.volumes session, ∃ source, v.source = some source ∧
        (recover root plan).Within (FuseMounts fun v target secrets => secrets = plan.secrets ∧
          Engine.Fuse.MountedAs (.ofHandle source.handle) v target) := by
  have mounted {id : String} {context : Dict} {clusters : Clusters} {v : Volume}
      (h : Volume.resolve id context clusters = .ok v) (target : String) :
      Engine.Fuse.MountedAs (.ofHandle id) v target :=
    Credentials.Kind.forVolume_of_resolve h ▸ Engine.Fuse.mountedAs v target
  constructor
  · intro clusters r
    refine (Service.stage_fuseMounts clusters r).mono fun _ asked => asked.mono ?_
    rintro v target _ ⟨resolved, rfl⟩
    exact ⟨rfl, mounted resolved target⟩
  · intro scope session prepared plan root plans planned
    obtain ⟨v, hv, source, hsource, resolved⟩ := prepare_resolves plans planned
    refine ⟨v, hv, source, hsource, ?_⟩
    refine (recover_fuseMounts root plan).mono fun _ asked => asked.mono ?_
    rintro _ target _ ⟨rfl, rfl⟩
    exact ⟨rfl, mounted resolved target⟩

/-- A volume set up by hand, staged with the secrets of both kinds, and a recovered one that goes by
its handle. -/
theorem mounted_with_own_credentials_of_both_kinds :
    let secrets : Dict := [("adminName", "root"), ("adminSecretKey", "s3cr3t"),
      ("userName", "alice"), ("userSecretKey", "k3y")]
    let r : StageRequest := ⟨"shared", "/s", some ⟨none, none⟩, secrets,
      [("static", "true"), ("clusterID", "1")]⟩
    let v : Volume := ⟨"shared", "shared", "1", "http://fcfs", 0, true⟩
    let scope : Scope := ⟨"n", "d", "/k", ⟨[("1", "http://fcfs")]⟩⟩
    let session :=
      ((Session.mk sharedStore [] []).onlyVolume mountedVolume).onlyPod "n" failingPod
    let plan : Plan := ⟨"b", ⟨"0001-1-0005-admin-0001-w", "w", "1", "http://fcfs", 0, false⟩,
      [("adminName", "admin"), ("adminSecretKey", "s3cr3t")], [], [⟨"u", "y", false, []⟩]⟩
    let globalMount := "/k/plugins/kubernetes.io/csi/pv/b/globalmount"
    let node := Machine.handle Machine.fuseMount
    let bench := Engine.Bench.handle Engine.Bench.recorded Engine.Bench.strangers
    let keyFile := "/tmp/csi/keys/keyfile-0"
    Node.Call.fuseMount v "/s" secrets ∈
      ((Service.stage scope.clusters r).run.met node (.ofBench .start)).map (·.1) ∧
    (∃ rest b, (.run Engine.fuseTool ("-u" :: "alice" :: "-k" :: keyFile :: rest), b) ∈
        (Engine.Fuse.mountDirectly Engine.basePath v "/s" secrets).run.met bench .start ∧
      b.scene.tree.readText keyFile = .ok "k3y") ∧
    (session.run (prepare scope)).1 = .ok [.planned plan] ∧
    Node.Call.fuseMount plan.volume globalMount plan.secrets ∈
      ((recover scope.root plan).met node (.ofBench .start)).map (·.1) ∧
    ∃ rest b, (.run Engine.fuseTool ("-u" :: "admin" :: "-k" :: keyFile :: rest), b) ∈
        (Engine.Fuse.serve (Engine.Fuse.request Engine.basePath plan.volume globalMount
          plan.secrets)).run.met bench .start ∧
      b.scene.tree.readText keyFile = .ok "s3cr3t" := by
  intro secrets r v scope session plan globalMount node bench keyFile
  obtain ⟨staging, recovery⟩ := mounted_with_own_credentials
  have staged : Node.Call.fuseMount v "/s" secrets ∈
      ((Service.stage scope.clusters r).run.met node (.ofBench .start)).map (·.1) := by
    decide +kernel
  have plans : (session.run (prepare scope)).1 = .ok [.planned plan] := rfl
  have recovered : Node.Call.fuseMount plan.volume globalMount plan.secrets ∈
      ((recover scope.root plan).met node (.ofBench .start)).map (·.1) := by
    decide +kernel
  have direct : .run Engine.fuseTool ["-u", "alice", "-k", keyFile, "-b", "/opt/fastcfs/shared",
      "-n", "shared", "-m", "/s", "http://fcfs/fastcfs/fcfs/fuse.conf", "restart"] ∈
      ((Engine.Fuse.mountDirectly Engine.basePath v "/s" secrets).run.met bench .start).map
        (·.1) := by
    decide +kernel
  have forwarded : .run Engine.fuseTool ["-u", "admin", "-k", keyFile, "-b", "/opt/fastcfs/w",
      "-n", "w", "-m", globalMount, "http://fcfs/fastcfs/fcfs/fuse.conf", "restart"] ∈
      ((Engine.Fuse.serve (Engine.Fuse.request Engine.basePath plan.volume globalMount
        plan.secrets)).run.met bench .start).map (·.1) := by
    decide +kernel
  refine ⟨staged, ?_, plans, recovered, ?_⟩
  · have foreign : Credentials.Kind.ofHandle r.volumeId = .user := by decide +kernel
    obtain ⟨⟨call, m⟩, met, rfl⟩ := List.mem_map.1 staged
    obtain ⟨-, mounted⟩ := (staging scope.clusters r).met met
    rw [foreign] at mounted
    exact ⟨_, (mounted.direct Engine.basePath).staged direct rfl⟩
  · obtain ⟨w, hw, source, hsource, within⟩ :=
      recovery scope session _ plan scope.root plans (List.mem_singleton.2 rfl)
    obtain rfl : w = mountedVolume := List.mem_singleton.1 hw
    cases hsource
    have decodes : Credentials.Kind.ofHandle "0001-1-0005-admin-0001-w" = .admin := by
      decide +kernel
    obtain ⟨⟨call, m⟩, met, rfl⟩ := List.mem_map.1 recovered
    obtain ⟨-, mounted⟩ := within.met met
    rw [decodes] at mounted
    exact ⟨_, (mounted.forwarded Engine.basePath).staged forwarded rfl⟩

end Recovery

end FuseVolumes
