import FuseVolumes.Proofs.Controller.Granted
import FuseVolumes.Proofs.Engine.Exchanges

/-!
# The commands of requests

Whatever the tool replies, a request that is refused or turned away has run no command, one that
gives a handle runs at most one, and the commands of one request are of one user for one volume of
one pool (`Orderly`). A request to create a volume that is let through lists the volume first and
creates it if and only if the tool tells that it is missing (`Provides`). After every request the
names in use are what they were before (`Request.answer_restores`).
-/

namespace FuseVolumes.Controller

open Program
open Engine (Exchange Opens Restores Succeeds Work Yields exchanges reserving_restores
  reserving_yields reserving_yields_of_free restores_of_stays withCredentials_restores
  withCredentials_yields withCredentials_yields_of_opens yields_aside yields_orFail yields_run_bind
  yields_run_map)
open Engine.Pool (TellsMissing TellsPresent ordered place)

variable {σ α : Type} {handler : Handler Engine.interface σ} {names : σ → Reservations}
  {clusters : Clusters} {s : σ}

/-! ## Orderly commands -/

/-- A command of a user for the volume at a place. Who lists volumes lists those of its own. -/
def Addressed (user : String) (place : Engine.Place) (x : Exchange) : Prop :=
  x.program = Engine.poolTool ∧ ∃ key, ∃ order : Engine.Order,
    x.arguments = order.arguments user key place.url ∧ order.name = place.name ∧
    ∀ lister name, order = .plist lister name → lister = user

/-- What the commands of a request have in common, and what its answer tells about them. -/
structure Orderly (clusters : Clusters) (r : Request) (commands : List Exchange)
    (result : Except Status α) : Prop where
  /-- An error after a command is internal. -/
  refused : ∀ e, result = .error e → e.code ≠ .internal → commands = []
  /-- All commands are of one user, for the volume that the request is about. -/
  addressed : ∃ user, ∀ x ∈ commands, ∃ place,
    r.place? clusters = some place ∧ Addressed user place x
  /-- A request that gives a handle runs one command, or none. -/
  single : r.handle?.isSome = true → commands.length ≤ 1

theorem ordered_addressed {v : Volume} {c : Credentials} {order : Engine.Order}
    {reply : Except Fault Engine.Output} (named : order.name = v.name)
    (lists : ∀ lister name, order = .plist lister name → lister = c.user) :
    Addressed c.user (place v) (ordered v c order reply) :=
  ⟨rfl, c.keyFile, order, rfl, named, lists⟩

namespace Orderly

variable {r : Request} {commands : List Exchange} {result : Except Status α}

theorem nothing (result : Except Status α) : Orderly clusters r [] result where
  refused _ _ _ := rfl
  addressed := ⟨"", nofun⟩
  single _ := Nat.zero_le 1

theorem map {β : Type} (f : α → β) (h : Orderly clusters r commands result) :
    Orderly clusters r commands (result.map f) where
  refused e failed := by
    cases result with
    | ok a => cases failed
    | error e' =>
      cases failed
      exact h.refused e rfl
  addressed := h.addressed
  single := h.single

/-- One command for the volume of a request, whose failure is internal. -/
theorem one {v : Volume} {c : Credentials} {order : Engine.Order}
    {reply : Except Fault Engine.Output} (known : r.place? clusters = some (place v))
    (named : order.name = v.name) (verb : ∀ lister name, order ≠ .plist lister name)
    (failed : ∀ e, result = .error e → e.code = .internal) :
    Orderly clusters r [ordered v c order reply] result where
  refused e h other := absurd (failed e h) other
  addressed := by
    refine ⟨c.user, fun x hx => ⟨place v, known, ?_⟩⟩
    obtain rfl := List.mem_singleton.1 hx
    exact ordered_addressed named fun lister name h => absurd h (verb lister name)
  single _ := Nat.le_refl 1

end Orderly

/-! ## Creations -/

/-- A creation that is let through lists the volume, creates it if and only if the tool tells that
it is missing, and succeeds if and only if it is told to exist or is created. -/
def Provides (v : Volume) (c : Credentials) (commands : List Exchange) (succeeded : Bool) :
    Prop :=
  ∃ listed made, commands = ordered v c (.plist c.user v.name) listed ::
      (Option.map (ordered v c (.create v.name (Capacity.wholeGib v.capacity))) made).toList ∧
    (made.isSome = true ↔ TellsMissing v.name listed) ∧
    (succeeded = true ↔
      TellsPresent v.name listed ∨ ∃ reply, made = some reply ∧ Succeeds reply)

/-- The commands of a creation are its user's, for its volume. -/
theorem Provides.addressed {v : Volume} {c : Credentials} {commands : List Exchange}
    {succeeded : Bool} (h : Provides v c commands succeeded) :
    ∀ x ∈ commands, Addressed c.user (place v) x := by
  obtain ⟨listed, made, rfl, -, -⟩ := h
  intro x hx
  rcases List.mem_cons.1 hx with rfl | hx
  · refine ordered_addressed rfl fun lister name h => ?_
    cases h
    rfl
  · obtain ⟨reply, -, rfl⟩ := Option.map_eq_some_iff.1 (Option.mem_toList.1 hx)
    exact ordered_addressed rfl fun _ _ => nofun

/-- A request to create a volume that is not refused at once. -/
structure CreateRequest.Valid (r : CreateRequest) : Prop where
  named : r.name ≠ ""
  asks : r.capabilities ≠ []
  supported : Csi.checkAll r.capabilities = .ok ()
  fresh : r.hasContentSource = false

/-- A creation is let through: it is valid, the admin's key can be staged, nobody else works under
its name, and it describes a volume. -/
structure Admitted (handler : Handler Engine.interface σ) (names : σ → Reservations)
    (clusters : Clusters) (r : CreateRequest) (c : Credentials) (v : Volume) (s : σ) : Prop where
  valid : r.Valid
  opened : Opens handler .admin r.secrets c s
  free : (names s).isReserved r.name = false
  described :
    Volume.ofRequest r.name r.parameters (r.required.getD 0) c.user clusters = .ok v

namespace Service

/-! ## Services -/

theorem onPool_yields {work : Work Engine.Error α}
    {wanted : List Exchange → Except Status α → Prop}
    (h : Yields handler
      (fun commands result => wanted commands (result.mapError Engine.Error.status)) work.run s) :
    Yields handler wanted (onPool work).run s :=
  yields_orFail h

theorem info_yields {message : String} {fields : List (String × String)}
    {wanted : List Exchange → Except Status Unit → Prop} (h : wanted [] (.ok ())) :
    Yields handler wanted (liftM (info message fields) : Work Status Unit).run s :=
  yields_aside (fun _ => rfl) h

/-- A creation, as far as its commands go; its errors are internal. -/
theorem provide_yields (v : Volume) (c : Credentials) :
    Yields handler (fun commands result => Provides v c commands result.isOk ∧
      ∀ e, result = .error e → e.code = .internal) (provide v c).run s := by
  refine yields_run_bind (onPool_yields (Engine.Pool.exists_yields.mono ?_))
  rintro _ result ⟨listed, rfl, missing, present, failed⟩
  match result with
  | .error e =>
    have notMissing : ¬ TellsMissing v.name listed := fun told => nomatch missing.2 told
    have notPresent : ¬ TellsPresent v.name listed := fun told => nomatch present.2 told
    refine ⟨⟨listed, none, rfl, ?_, ?_⟩, ?_⟩
    · exact iff_of_false nofun notMissing
    · exact iff_of_false nofun (by simp [notPresent])
    · rintro _ ⟨⟩
      exact failed e rfl
  | .ok true =>
    have notMissing : ¬ TellsMissing v.name listed := fun told => nomatch missing.2 told
    have there : TellsPresent v.name listed := present.1 rfl
    refine ⟨⟨listed, none, rfl, ?_, ?_⟩, fun _ => nofun⟩
    · exact iff_of_false nofun notMissing
    · exact iff_of_true rfl (.inl there)
  | .ok false =>
    have absent : TellsMissing v.name listed := missing.1 rfl
    have notPresent : ¬ TellsPresent v.name listed := fun told => nomatch present.2 told
    refine yields_run_bind (onPool_yields (Engine.Pool.create_yields.mono ?_))
    rintro _ result ⟨made, rfl, success, failed⟩
    match result with
    | .error e =>
      have unmade : ¬ Succeeds made := fun told => nomatch success.2 told
      refine ⟨⟨listed, some made, rfl, ?_, ?_⟩, ?_⟩
      · exact iff_of_true rfl absent
      · exact iff_of_false nofun (by simp [notPresent, unmade])
      · rintro _ ⟨⟩
        exact failed e rfl
    | .ok () =>
      have done : Succeeds made := success.1 rfl
      refine info_yields ⟨⟨listed, some made, rfl, ?_, ?_⟩, fun _ => nofun⟩
      · exact iff_of_true rfl absent
      · exact iff_of_true rfl (.inr ⟨made, rfl, done⟩)

theorem createExclusively_provides {r : CreateRequest} {c : Credentials} {v : Volume}
    (described :
      Volume.ofRequest r.name r.parameters (r.required.getD 0) c.user clusters = .ok v) :
    Yields handler (fun commands result => Provides v c commands result.isOk ∧
      ∀ e, result = .error e → e.code = .internal) (createExclusively clusters r c).run s := by
  unfold createExclusively
  rw [described]
  refine yields_run_map ((provide_yields v c).mono fun commands result ⟨provides, failed⟩ => ?_)
  cases result with
  | ok a => exact ⟨provides, fun _ => nofun⟩
  | error e =>
    refine ⟨provides, ?_⟩
    rintro _ ⟨⟩
    exact failed e rfl

theorem createExclusively_orderly (r : CreateRequest) (c : Credentials) :
    Yields handler (Orderly clusters (.create r)) (createExclusively clusters r c).run s := by
  cases described : Volume.ofRequest r.name r.parameters (r.required.getD 0) c.user clusters with
  | error e =>
    unfold createExclusively
    rw [described]
    exact Orderly.nothing _
  | ok v =>
    have known : (Request.create r).place? clusters = some (place v) :=
      Request.place?_eq (Volume.inPool_of_ofRequest described)
        (Volume.known_of_ofRequest described).1
    refine (createExclusively_provides described).mono fun commands result ⟨provides, failed⟩ => ?_
    exact {
      refused := fun e h other => absurd (failed e h) other
      addressed := ⟨c.user, fun x hx => ⟨place v, known, provides.addressed x hx⟩⟩
      single := nofun }

theorem deleteExclusively_orderly (r : DeleteRequest) (c : Credentials) :
    Yields handler (Orderly clusters (.delete r)) (deleteExclusively clusters r c).run s := by
  unfold deleteExclusively
  split
  · exact info_yields (Orderly.nothing _)
  · exact Orderly.nothing _
  next v given =>
    have known : (Request.delete r).place? clusters = some (place v) :=
      Request.place?_eq (Volume.inPool_of_ofHandle given) (Volume.known_of_ofHandle given).1
    refine yields_run_bind (onPool_yields (Engine.Pool.delete_yields.mono ?_))
    rintro _ result ⟨reply, rfl, failed⟩
    cases result with
    | error e =>
      refine Orderly.one known rfl (fun _ _ => nofun) ?_
      rintro _ ⟨⟩
      exact failed e rfl
    | ok a => exact info_yields (Orderly.one known rfl (fun _ _ => nofun) fun _ => nofun)

theorem expandExclusively_orderly (r : ExpandRequest) (required : Int) (c : Credentials) :
    Yields handler (Orderly clusters (.expand r))
      (expandExclusively clusters r required c).run s := by
  unfold expandExclusively
  split
  · exact Orderly.nothing _
  next v given =>
    have known : (Request.expand r).place? clusters = some (place v) :=
      Request.place?_eq (Volume.inPool_of_ofHandle given) (Volume.known_of_ofHandle given).1
    refine yields_run_bind (onPool_yields (Engine.Pool.resize_yields.mono ?_))
    rintro _ result ⟨reply, rfl, failed⟩
    cases result with
    | error e =>
      refine Orderly.one known rfl (fun _ _ => nofun) ?_
      rintro _ ⟨⟩
      exact failed e rfl
    | ok capacity =>
      refine yields_run_map (info_yields ?_)
      exact Orderly.one known rfl (fun _ _ => nofun) fun _ => nofun

/-- A creation that is let through makes sure that its volume is there. -/
theorem create_yields (law : Reserves Engine.locking handler names) {r : CreateRequest}
    {c : Credentials} {v : Volume} (admitted : Admitted handler names clusters r c v s) :
    Yields handler (fun commands result => Provides v c commands result.isOk)
      (create clusters r).run s := by
  obtain ⟨⟨named, asks, supported, fresh⟩, opened, free, described⟩ := admitted
  have granted : create clusters r = asAdmin r.secrets fun c =>
      exclusively r.name (createExclusively clusters r c) := by
    rw [create, if_neg (by simpa using named), if_neg (by simpa using asks), supported]
    exact if_neg (by simpa using fresh)
  rw [granted]
  refine withCredentials_yields_of_opens law opened fun s' same => ?_
  refine reserving_yields_of_free law (by rwa [same]) ?_
  exact (createExclusively_provides described).mono fun _ _ h => h.1

end Service

/-! ## Requests -/

/-- **Order.** The commands of a request are orderly, whatever the tool replies. -/
theorem Request.answer_orderly (law : Reserves Engine.locking handler names)
    (clusters : Clusters) (r : Request) (s : σ) :
    Yields handler (Orderly clusters r) (r.answer clusters).run s := by
  cases r with
  | create r =>
    refine yields_run_map (Yields.mono ?_ fun _ _ h => Orderly.map Answer.created h)
    rcases Service.create_cases clusters r with ⟨message, refused⟩ | granted
    · rw [refused]
      exact Orderly.nothing _
    · rw [granted]
      refine withCredentials_yields (fun _ _ => .nothing _) (fun _ _ _ _ _ => .nothing _)
        fun user key file _ _ => ?_
      exact reserving_yields law (fun _ => .nothing _) fun _ =>
        Service.createExclusively_orderly r _
  | delete r =>
    refine yields_run_map (Yields.mono ?_ fun _ _ h => Orderly.map (fun _ => Answer.deleted) h)
    rcases Service.delete_cases clusters r with ⟨message, refused⟩ | granted
    · rw [refused]
      exact Orderly.nothing _
    · rw [granted]
      refine withCredentials_yields (fun _ _ => .nothing _) (fun _ _ _ _ _ => .nothing _)
        fun user key file _ _ => ?_
      exact reserving_yields law (fun _ => .nothing _) fun _ =>
        Service.deleteExclusively_orderly r _
  | expand r =>
    refine yields_run_map (Yields.mono ?_ fun _ _ h => Orderly.map Answer.expanded h)
    rcases Service.expand_cases clusters r with ⟨message, refused⟩ | ⟨required, -, granted⟩
    · rw [refused]
      exact Orderly.nothing _
    · rw [granted]
      refine reserving_yields law (fun _ => .nothing _) fun _ => ?_
      exact withCredentials_yields (fun _ _ => .nothing _) (fun _ _ _ _ _ => .nothing _)
        fun user key file _ _ => Service.expandExclusively_orderly r required _
  | validate r =>
    refine yields_run_map (Yields.mono ?_ fun _ _ h => Orderly.map Answer.validated h)
    rcases Service.validate_cases r with ⟨message, refused⟩ | ⟨answer, given⟩
    · rw [refused]
      exact Orderly.nothing _
    · rw [given]
      exact Orderly.nothing _
  | capabilities | other => exact Orderly.nothing _

/-- After a request the names in use are what they were before. -/
theorem Request.answer_restores (law : Reserves Engine.locking handler names)
    (clusters : Clusters) (r : Request) :
    Restores handler names (r.answer clusters).run := by
  have stays {β : Type} {work : Work Status β} {about : Volume → Prop}
      (h : work.run.Within (Engine.Pool.Uses about)) : Restores handler names work.run :=
    restores_of_stays law (h.mono fun _ => Engine.Pool.Uses.stays)
  cases r with
  | create r =>
    refine Restores.map ?_
    rcases Service.create_cases clusters r with ⟨message, refused⟩ | granted
    · rw [refused]
      exact fun _ => rfl
    · rw [granted]
      exact withCredentials_restores law fun c =>
        reserving_restores law (stays (Service.create_uses clusters r c))
  | delete r =>
    refine Restores.map ?_
    rcases Service.delete_cases clusters r with ⟨message, refused⟩ | granted
    · rw [refused]
      exact fun _ => rfl
    · rw [granted]
      exact withCredentials_restores law fun c =>
        reserving_restores law (stays (Service.delete_uses clusters r c))
  | expand r =>
    refine Restores.map ?_
    rcases Service.expand_cases clusters r with ⟨message, refused⟩ | ⟨required, -, granted⟩
    · rw [refused]
      exact fun _ => rfl
    · rw [granted]
      exact reserving_restores law (withCredentials_restores law fun c =>
        stays (Service.expand_uses clusters r required c))
  | validate r =>
    refine Restores.map ?_
    rcases Service.validate_cases r with ⟨message, refused⟩ | ⟨answer, given⟩
    · rw [refused]
      exact fun _ => rfl
    · rw [given]
      exact fun _ => rfl
  | capabilities | other => exact fun _ => rfl

/-- **Commands and replies.** On any engine that keeps the names in use, the commands of a request
are orderly, a creation that is let through makes sure that its volume is there, and the names in
use are the same again afterwards. -/
theorem requests_disciplined (law : Reserves Engine.locking handler names) (clusters : Clusters)
    (r : Request) (s : σ) :
    let commands := exchanges handler (r.answer clusters).run s
    let ended := (r.answer clusters).run.run handler s
    Orderly clusters r commands ended.1 ∧
    (∀ creation c v, r = .create creation → Admitted handler names clusters creation c v s →
      Provides v c commands ended.1.isOk) ∧
    names ended.2 = names s := by
  intro commands ended
  refine ⟨Request.answer_orderly law clusters r s, ?_, Request.answer_restores law clusters r s⟩
  rintro creation c v rfl admitted
  have provides : Yields handler (fun commands result => Provides v c commands result.isOk)
      ((Request.create creation).answer clusters).run s := by
    refine yields_run_map ((Service.create_yields law admitted).mono fun commands result h => ?_)
    cases result <;> exact h
  exact provides

/-! The tool tells in words that a volume is missing, and then fails to create it. -/

def fullPool : Engine.Bench :=
  .prepare .start [.ran ⟨some 0, "csi-vol-pvc-1 not exist"⟩, .ran ⟨some 1, "no space"⟩]

def newVolume : CreateRequest :=
  ⟨"pvc-1", some 1, [⟨some (.mount "" []), some 1⟩], [("clusterID", "1")], adminSecrets, false,
    none⟩

def newVolumeInPool : Volume :=
  ⟨"0001-1-0005-admin-000d-csi-vol-pvc-1", "csi-vol-pvc-1", "1", "http://fcfs", 1073741824, false⟩

def newVolumeAdmin : Credentials := ⟨"admin", "/tmp/csi/keys/keyfile-0"⟩

theorem requests_disciplined_full_pool :
    let work := ((Request.create newVolume).answer oneCluster).run
    Admitted Session.handler Engine.Bench.reservations oneCluster newVolume newVolumeAdmin
      newVolumeInPool fullPool ∧
    (exchanges Session.handler work fullPool).map (·.arguments.drop 6) =
      [["plist", "admin", "csi-vol-pvc-1"], ["create", "csi-vol-pvc-1", "1g"]] ∧
    (work.run Session.handler fullPool).1.isOk = false ∧
    Provides newVolumeInPool newVolumeAdmin (exchanges Session.handler work fullPool) false ∧
    Orderly oneCluster (.create newVolume) (exchanges Session.handler work fullPool)
      (work.run Session.handler fullPool).1 ∧
    (work.run Session.handler fullPool).2.reservations = fullPool.reservations := by
  have law : Reserves Engine.locking Session.handler Engine.Bench.reservations :=
    Engine.Bench.handle_reserves
  obtain ⟨orderly, provides, restored⟩ :=
    requests_disciplined law oneCluster (.create newVolume) fullPool
  have admitted : Admitted Session.handler Engine.Bench.reservations oneCluster newVolume
      newVolumeAdmin newVolumeInPool fullPool := {
    valid := ⟨by decide, by decide, rfl, rfl⟩
    opened := ⟨"s3cr3t", toOption_eq_some_iff.1 (by decide +kernel),
      toOption_eq_some_iff.1 (by decide +kernel)⟩
    free := by decide +kernel
    described := toOption_eq_some_iff.1 (by decide +kernel) }
  have provided := provides newVolume newVolumeAdmin newVolumeInPool rfl admitted
  have failed : (((Request.create newVolume).answer oneCluster).run.run Session.handler
      fullPool).1.isOk = false := by decide +kernel
  rw [failed] at provided
  exact ⟨admitted, by decide +kernel, failed, provided, orderly, restored⟩

end FuseVolumes.Controller
