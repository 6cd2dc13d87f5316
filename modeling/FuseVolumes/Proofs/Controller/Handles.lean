import FuseVolumes.Proofs.Controller.Commands
import FuseVolumes.Proofs.Handle.Reading

/-!
# Handles in requests

A volume is deleted, expanded and mounted by its handle. All three read the text in one way
(`handle_read_alike`): one that is no handle is left alone by a deletion, refused by an expansion,
and mounted as a volume set up by hand or not at all; a handle is of one volume for all of them,
whatever a volume's context says, unless its cluster is not known.
-/

namespace FuseVolumes.Controller

open Program
open Engine (Exchange Opens Order Yields exchanges poolTool reserving_yields_of_free
  withCredentials_yields_of_opens yields_run_bind yields_run_map)
open Volume (Reading)

variable {σ : Type} {handler : Handler Engine.interface σ} {names : σ → Reservations}
  {clusters : Clusters} {s : σ}

/-! ## What comes of a text -/

/-- Nothing is done about a text that is no handle, a handle of an unknown cluster is refused, and
for any other one the volume is deleted. -/
def Deletes (c : Credentials) : Reading → List Exchange → Except Status Answer → Prop
  | .foreign _, commands, answer => commands = [] ∧ answer = .ok .deleted
  | .unknown _, commands, answer =>
    commands = [] ∧ ∃ message, answer = .error ⟨.failedPrecondition, message⟩
  | .known handle url, commands, _ => ∃ reply, commands = [⟨poolTool,
      (Order.delete handle.volume).arguments c.user c.keyFile (url ++ Clusters.poolFile), reply⟩]

/-- What is no handle is refused, as is a handle of an unknown cluster, and for any other one the
volume is resized. -/
def Expands (c : Credentials) (required : Int) :
    Reading → List Exchange → Except Status Answer → Prop
  | .foreign _, commands, answer =>
    commands = [] ∧ ∃ message, answer = .error ⟨.invalidArgument, message⟩
  | .unknown _, commands, answer =>
    commands = [] ∧ ∃ message, answer = .error ⟨.failedPrecondition, message⟩
  | .known handle url, commands, _ => ∃ reply, commands = [⟨poolTool,
      (Order.quota handle.volume (Capacity.wholeGib required)).arguments c.user c.keyFile
        (url ++ Clusters.poolFile), reply⟩]

/-- What is no handle may be the name of a volume set up by hand; a handle is of a volume that was
created, and in a cluster that is known. -/
def Resolves (id : String) : Reading → Except Volume.Error Volume → Prop
  | .foreign _, result => ∀ v, result = .ok v → v.preProvisioned = true ∧ v.name = id
  | .unknown handle, result => result = .error (.cluster (.unknownCluster handle.cluster))
  | .known handle url, result => ∃ v, result = .ok v ∧ v.preProvisioned = false ∧
      v.cluster = handle.cluster ∧ v.baseUrl = url ∧ v.name = handle.volume

namespace Service

theorem deleteExclusively_deletes (r : DeleteRequest) (c : Credentials) :
    Yields handler (fun commands result =>
      Deletes c (.of clusters r.volumeId) commands (result.map fun _ => .deleted))
      (deleteExclusively clusters r c).run s := by
  unfold deleteExclusively
  rw [Volume.ofHandle_eq]
  cases Reading.of clusters r.volumeId with
  | foreign cause => exact info_yields ⟨rfl, rfl⟩
  | unknown handle => exact ⟨rfl, _, rfl⟩
  | known handle url =>
    refine yields_run_bind (onPool_yields (Engine.Pool.delete_yields.mono ?_))
    rintro _ result ⟨reply, rfl, -⟩
    cases result with
    | error e => exact ⟨reply, rfl⟩
    | ok a => exact info_yields ⟨reply, rfl⟩

theorem expandExclusively_expands (r : ExpandRequest) (required : Int) (c : Credentials) :
    Yields handler (fun commands result =>
      Expands c required (.of clusters r.volumeId) commands (result.map Answer.expanded))
      (expandExclusively clusters r required c).run s := by
  unfold expandExclusively
  rw [Volume.ofHandle_eq]
  cases Reading.of clusters r.volumeId with
  | foreign cause => exact ⟨rfl, _, rfl⟩
  | unknown handle => exact ⟨rfl, _, rfl⟩
  | known handle url =>
    refine yields_run_bind (onPool_yields (Engine.Pool.resize_yields.mono ?_))
    rintro _ result ⟨reply, rfl, -⟩
    cases result with
    | error e => exact ⟨reply, rfl⟩
    | ok capacity => exact yields_run_map (info_yields ⟨reply, rfl⟩)

end Service

/-! ## One reading -/

section Requests

variable {id : String} {secrets : Dict} {c : Credentials}

theorem delete_reads (law : Reserves Engine.locking handler names) (given : id ≠ "")
    (free : (names s).isReserved id = false) (opened : Opens handler .admin secrets c s) :
    Yields handler (Deletes c (.of clusters id))
      ((Request.delete ⟨id, secrets⟩).answer clusters).run s := by
  refine yields_run_map ?_
  rw [Service.delete, if_neg (by simpa using given)]
  refine withCredentials_yields_of_opens law opened fun s' same => ?_
  refine reserving_yields_of_free law ?_ ?_
  · rw [same]
    exact free
  · exact Service.deleteExclusively_deletes ⟨id, secrets⟩ c

theorem expand_reads (law : Reserves Engine.locking handler names) (given : id ≠ "")
    {required : Int} (positive : 0 < required) (free : (names s).isReserved id = false)
    (opened : Opens handler .admin secrets c (handler (.reserve id) s).2) :
    Yields handler (Expands c required (.of clusters id))
      ((Request.expand ⟨id, some required, secrets⟩).answer clusters).run s := by
  have asked : Option.filter (0 < ·) (some required) = some required :=
    Option.filter_eq_some_iff.2 ⟨rfl, decide_eq_true positive⟩
  refine yields_run_map ?_
  rw [Service.expand, if_neg (by simpa using given)]
  dsimp only
  rw [asked]
  refine reserving_yields_of_free law free ?_
  refine withCredentials_yields_of_opens law opened fun s' _ => ?_
  exact Service.expandExclusively_expands ⟨id, some required, secrets⟩ required c

end Requests

theorem resolve_reads (id : String) (context : Dict) (clusters : Clusters) :
    Resolves id (.of clusters id) (Volume.resolve id context clusters) := by
  rw [Volume.resolve_eq]
  cases Reading.of clusters id with
  | foreign cause => exact fun v found => Volume.name_of_ofStatic found
  | unknown handle => rfl
  | known handle url => exact ⟨_, rfl, rfl, rfl, rfl, rfl⟩

/-- **One reading.** A text that nobody works on is read by a deletion, by an expansion and by a
mount in one way, if the admin's key can be staged for the first two. -/
theorem handle_read_alike (law : Reserves Engine.locking handler names) (clusters : Clusters)
    {id : String} (given : id ≠ "") {secrets secrets' : Dict} {c c' : Credentials}
    {required : Int} (positive : 0 < required) {s t : σ}
    (free : (names s).isReserved id = false) (opened : Opens handler .admin secrets c s)
    (free' : (names t).isReserved id = false)
    (opened' : Opens handler .admin secrets' c' (handler (.reserve id) t).2) :
    Yields handler (Deletes c (.of clusters id))
      ((Request.delete ⟨id, secrets⟩).answer clusters).run s ∧
    Yields handler (Expands c' required (.of clusters id))
      ((Request.expand ⟨id, some required, secrets'⟩).answer clusters).run t ∧
    ∀ context, Resolves id (.of clusters id) (Volume.resolve id context clusters) :=
  ⟨delete_reads law given free opened, expand_reads law given positive free' opened',
    fun context => resolve_reads id context clusters⟩

/-- A volume that was created, one in a cluster that is not known, and one set up by hand. -/
theorem handle_read_alike_each_way :
    let ids := ["0001-1-0005-admin-000d-csi-vol-pvc-1", "0001-2-0005-admin-000d-csi-vol-pvc-1",
      "pvc-1"]
    (∀ id ∈ ids,
      Yields Session.handler (Deletes newVolumeAdmin (.of oneCluster id))
        ((Request.delete ⟨id, adminSecrets⟩).answer oneCluster).run fullPool ∧
      Yields Session.handler (Expands newVolumeAdmin 1 (.of oneCluster id))
        ((Request.expand ⟨id, some 1, adminSecrets⟩).answer oneCluster).run fullPool ∧
      ∀ context, Resolves id (.of oneCluster id) (Volume.resolve id context oneCluster)) ∧
    (ids.map fun id => (exchanges Session.handler
      ((Request.expand ⟨id, some 1, adminSecrets⟩).answer oneCluster).run fullPool).map
        (·.arguments.drop 6)) = [[["quota", "csi-vol-pvc-1", "1g"]], [], []] ∧
    ids.map (fun id => (Volume.resolve id [("static", "true"), ("clusterID", "1")]
      oneCluster).toOption.map (·.name)) = [some "csi-vol-pvc-1", none, some "pvc-1"] := by
  intro ids
  have law : Reserves Engine.locking Session.handler Engine.Bench.reservations :=
    Engine.Bench.handle_reserves
  have given : ∀ id ∈ ids, id ≠ "" := by decide
  have selected : Credentials.select .admin adminSecrets = .ok (newVolumeAdmin.user, "s3cr3t") :=
    toOption_eq_some_iff.1 (by decide +kernel)
  have staged : (Session.handler (.stageKey Credentials.keyDirectory "s3cr3t") fullPool).1.toOption
      = some newVolumeAdmin.keyFile := by decide +kernel
  have staged' : ∀ id ∈ ids, (Session.handler (.stageKey Credentials.keyDirectory "s3cr3t")
      (Session.handler (.reserve id) fullPool).2).1.toOption = some newVolumeAdmin.keyFile := by
    decide +kernel
  refine ⟨fun id hid => ?_, by decide +kernel, by decide +kernel⟩
  exact handle_read_alike law oneCluster (given id hid) Int.one_pos rfl
    ⟨"s3cr3t", selected, toOption_eq_some_iff.1 staged⟩ rfl
    ⟨"s3cr3t", selected, toOption_eq_some_iff.1 (staged' id hid)⟩

end FuseVolumes.Controller
