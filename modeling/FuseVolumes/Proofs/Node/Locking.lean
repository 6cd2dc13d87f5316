import FuseVolumes.Proofs.Node.MountPoint
import FuseVolumes.Proofs.Node.Request
import FuseVolumes.Proofs.Program.Exclusion

/-!
# Requests that exclude each other

Calls to the mounts and to the fuse daemons are the work that a node does under a name. A request
reserves the name of its volume before any of them, gives it back on every way out, and is answered
`aborted` if and only if the name was taken (`Request.heeds`).
-/

namespace FuseVolumes.Node

open Program

/-! ## Names in calls -/

/-- All calls but those for names and the log are work. -/
def Call.role : Call → Role
  | .reserve name => .reserve name
  | .release name => .release name
  | .log _ => .aside
  | .isMountPoint _ | .probe _ | .makeDirectory _ | .bindMount _ _ _ | .unmount _
  | .removeDirectory _ | .fuseMount _ _ _ | .statFileSystem _ => .work

def locking : Locking interface where
  role := Call.role
  grants
    | .reserve _, taken => taken
    | _, _ => false

/-- A machine keeps the names in use. -/
theorem Machine.handle_reserves {fuse : Machine.FuseMounter} (hfuse : Machine.FailsByMount fuse) :
    Reserves locking (Machine.handle fuse) fun m => m.bench.reservations where
  grants call m name role := by
    cases call <;> cases role
    simp only [locking, Machine.handle, Machine.reserve, Reservations.tryAcquire]
    split <;> simp_all
  acquires call m name role := by
    cases call <;> cases role
    rfl
  releases call m name role := by
    cases call <;> cases role
    rfl
  spares call m role := by
    rw [Machine.handle_reservations hfuse]
    cases call <;> first | rfl | (rcases role with role | role <;> cases role)

/-! ## Work under a name -/

/-- Whatever happens, the name is not touched, and the answer is not `aborted`. -/
def Undisturbed {α : Type} (work : Work Status α) : Prop :=
  work.run.Obeys (fun _ _ => True) (locking.Stays .holding)
    fun result => ∀ status, result = .error status → status.code ≠ .aborted

section Undisturbed

variable {α β ε : Type}

theorem stays_of_work {call : Call} (h : call.role = .work) : locking.Stays .holding call :=
  .inr ⟨rfl, h⟩

theorem undisturbed_pure (a : α) : Undisturbed (pure a) := nofun

theorem undisturbed_throw {status : Status} (h : status.code ≠ .aborted) :
    Undisturbed (throw status : Work Status α) := by
  rintro _ ⟨⟩
  exact h

theorem Undisturbed.bind {x : Work Status α} {f : α → Work Status β} (hx : Undisturbed x)
    (hf : ∀ a, Undisturbed (f a)) : Undisturbed (x >>= f) := by
  refine obeys_run_bind hx (fun a _ => hf a) fun e he status h => ?_
  cases h
  exact he e rfl

theorem undisturbed_ask {call : Call} (h : locking.Stays .holding call) :
    Undisturbed (liftM (ask call)) :=
  obeys_liftM ⟨h, fun _ _ => nofun⟩

theorem undisturbed_log (event : Event) : Undisturbed (liftM (log event)) :=
  undisturbed_ask (.inl rfl)

theorem undisturbed_fail {code : Code} (h : code ≠ .aborted) (message : String) :
    Undisturbed (Service.fail code message : Work Status α) :=
  (undisturbed_log _).bind fun _ => undisturbed_throw h

/-- No trouble with a mount point reads as if the volume was in use. -/
theorem undisturbed_atMountPoint {work : Work MountPointError α}
    (h : work.run.Within (locking.Stays .holding)) : Undisturbed (Service.atMountPoint work) := by
  refine obeys_bind h fun result _ status => ?_
  cases result with
  | ok a => nofun
  | error e =>
    rintro ⟨⟩
    nofun

end Undisturbed

/-! ## The work of each request -/

theorem inspect_stays (path : String) :
    (MountPoint.inspect path).run.Within (locking.Stays .holding) := by
  refine within_run_bind (within_liftM (within_request (stays_of_work rfl))) fun reply => ?_
  match reply with
  | .ok false => trivial
  | .ok true =>
    refine within_run_bind (within_liftM (within_request (stays_of_work rfl))) fun reply => ?_
    match reply with
    | .ok () => trivial
    | .error fault => exact ⟨.inl rfl, fun _ _ => trivial⟩
  | .error fault =>
    dsimp only
    split
    · trivial
    · split <;> trivial

theorem stays_of_covers {path : String} {call : Call} (h : (Footprint.one path).Covers call) :
    locking.Stays .holding call := by
  cases call <;> first | exact h.elim | exact .inl rfl | exact stays_of_work rfl

theorem ensure_stays (path : String) :
    (MountPoint.ensure path).run.Within (locking.Stays .holding) :=
  (MountPoint.ensure_within path).mono fun _ => stays_of_covers

theorem unmount_stays (path : String) :
    (MountPoint.unmount path).run.Within (locking.Stays .holding) :=
  within_orFail (within_request (stays_of_work rfl))

theorem removeDirectory_stays (path : String) :
    (MountPoint.removeDirectory path).run.Within (locking.Stays .holding) := by
  refine within_run_bind (within_liftM (within_request (stays_of_work rfl))) fun reply => ?_
  match reply with
  | .ok () => trivial
  | .error fault =>
    dsimp only
    split <;> trivial

theorem cleanup_stays (path : String) :
    (MountPoint.cleanup path).run.Within (locking.Stays .holding) := by
  refine within_run_bind (inspect_stays path) fun state => ?_
  cases state with
  | absent => trivial
  | empty => exact removeDirectory_stays path
  | mounted | corrupted =>
    exact within_run_bind (unmount_stays path) fun _ => removeDirectory_stays path

theorem volume_status_ne_aborted (e : Volume.Error) : e.status.code ≠ .aborted := by
  cases e <;> nofun

theorem statsStatus_ne_aborted (fault : Fault) : (Service.statsStatus fault).code ≠ .aborted := by
  unfold Service.statsStatus
  split
  · dsimp only
    split
    · nofun
    · split
      · nofun
      · split <;> nofun
  · nofun

namespace Service

theorem stage_undisturbed (clusters : Clusters) (r : StageRequest) :
    Undisturbed (stageExclusively clusters r) := by
  refine (undisturbed_atMountPoint (ensure_stays _)).bind fun ready => ?_
  cases ready with
  | true => exact undisturbed_pure ()
  | false =>
    match Volume.resolve r.volumeId r.context clusters with
    | .error e => exact undisturbed_throw (volume_status_ne_aborted e)
    | .ok volume =>
      refine (undisturbed_ask (stays_of_work rfl)).bind fun reply => ?_
      match reply with
      | .error e => exact undisturbed_fail (by decide) _
      | .ok () => exact undisturbed_log _

theorem unstage_undisturbed (r : UnstageRequest) : Undisturbed (unstageExclusively r) := by
  refine (undisturbed_atMountPoint (inspect_stays _)).bind fun state => ?_
  cases state with
  | absent | empty => exact undisturbed_pure ()
  | mounted | corrupted =>
    exact (undisturbed_atMountPoint (cleanup_stays _)).bind fun _ => undisturbed_log _

theorem publish_undisturbed (r : PublishRequest) : Undisturbed (publishExclusively r) := by
  refine (undisturbed_atMountPoint (ensure_stays _)).bind fun ready => ?_
  cases ready with
  | true => exact undisturbed_pure ()
  | false =>
    refine (undisturbed_ask (stays_of_work rfl)).bind fun reply => ?_
    match reply with
    | .ok () => exact undisturbed_log _
    | .error e =>
      refine (undisturbed_ask (stays_of_work rfl)).bind fun reply => ?_
      split <;> exact undisturbed_fail (by decide) _

theorem unpublish_undisturbed (r : UnpublishRequest) : Undisturbed (unpublishExclusively r) :=
  (undisturbed_atMountPoint (cleanup_stays _)).bind fun _ => undisturbed_log _

theorem stats_undisturbed (r : StatsRequest) : Undisturbed (statsExclusively r) := by
  refine (undisturbed_atMountPoint (inspect_stays _)).bind fun state => ?_
  cases state with
  | absent | empty => exact undisturbed_throw nofun
  | corrupted => exact (undisturbed_log _).bind fun _ => undisturbed_pure _
  | mounted =>
    refine (undisturbed_ask (stays_of_work rfl)).bind fun reply => ?_
    match reply with
    | .error fault => exact undisturbed_throw (statsStatus_ne_aborted fault)
    | .ok () => exact undisturbed_pure _

end Service

theorem Request.work_undisturbed {clusters : Clusters} {info : Info} (r : Request) :
    Undisturbed (r.work clusters info) := by
  cases r with
  | stage r => exact (Service.stage_undisturbed clusters r).bind fun _ => undisturbed_pure _
  | unstage r => exact (Service.unstage_undisturbed r).bind fun _ => undisturbed_pure _
  | publish r => exact (Service.publish_undisturbed r).bind fun _ => undisturbed_pure _
  | unpublish r => exact (Service.unpublish_undisturbed r).bind fun _ => undisturbed_pure _
  | stats r => exact (Service.stats_undisturbed r).bind fun _ => undisturbed_pure _
  | expand => exact undisturbed_throw nofun
  | capabilities | info => exact undisturbed_pure _

/-! ## Requests under their names -/

/-- How a request ends: it is answered `aborted` if and only if its name was taken, and a valid
request on a volume has asked for the name. -/
structure Request.Ends {α : Type} (r : Request) (id : String) (phase : Phase)
    (result : Except Status α) : Prop where
  refused : phase = .refused → result = .error (Reservations.InProgress.mk id).status
  aborted : ∀ status, result = .error status → status.code = .aborted →
    phase = .refused ∧ r.volumeId?.isSome
  asked : r.Valid → r.volumeId?.isSome → phase ≠ .waiting

/-- **Discipline.** A request reserves the name of its volume before its work, and gives it back
however the work ends. -/
theorem Request.heeds {clusters : Clusters} {info : Info} {r : Request} {id : String}
    (about : r.volumeId? = some id) :
    Heeds locking id (r.Ends id) .waiting (r.answer clusters info).run := by
  by_cases valid : r.Valid
  · rw [answer_of_valid valid about, Service.exclusively_run]
    refine ⟨rfl, fun taken => ?_⟩
    cases taken with
    | false =>
      exact ⟨nofun, fun _ => rfl, fun _ _ _ => ⟨rfl, by rw [about]; rfl⟩, fun _ _ => nofun⟩
    | true =>
      refine heeds_bind r.work_undisturbed fun result undisturbed => ⟨rfl, fun _ => ?_⟩
      refine ⟨nofun, nofun, fun status h aborted => ?_, fun _ _ => nofun⟩
      exact absurd aborted (undisturbed status h)
  · obtain ⟨message, refused⟩ : Service.Refuses (r.answer clusters info) :=
      answer_of_not_valid valid
    rw [refused]
    refine ⟨trivial, fun _ => ⟨nofun, nofun, ?_, fun h => absurd h valid⟩⟩
    rintro _ ⟨⟩
    nofun

/-- Who asks for no volume reserves no name. -/
theorem Request.heeds_none {clusters : Clusters} {info : Info} {r : Request} (id : String)
    (about : r.volumeId? = none) :
    Heeds locking id (r.Ends id) .waiting (r.answer clusters info).run := by
  cases r with
  | expand => exact ⟨nofun, nofun, by rintro _ ⟨⟩; nofun, fun _ => nofun⟩
  | capabilities | info => exact ⟨nofun, nofun, nofun, fun _ => nofun⟩
  | stage r | unstage r | publish r | unpublish r | stats r => cases about

end FuseVolumes.Node
