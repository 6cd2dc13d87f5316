import FuseVolumes.Proofs.Node.Refusal

/-!
# Where bind mounts are made from

Only publishing makes bind mounts, from the staging path to the target path. By the time it does, a
mount that answers is on the staging path if and only if there was one when the request came
(`Request.answer_binds`); the request itself does not ask.
-/

namespace FuseVolumes.Node

open Program Mount

variable {α : Type}

/-- Requests that bind nothing. -/
def Bindless : Call → Prop
  | .bindMount _ _ _ => False
  | _ => True

theorem bindless_of_idle {call : Call} (h : Idle call) : Bindless call := by
  cases call <;> trivial

/-! ## Work that binds nothing -/

namespace MountPoint

theorem inspect_bindless (path : String) : (inspect path).run.Within Bindless :=
  (inspect_idle path).mono fun _ => bindless_of_idle

theorem bindless_of_prepares {path : String} {call : Call} (h : Prepares path call) :
    Bindless call := by
  cases call <;> trivial

theorem ensure_bindless (path : String) : (ensure path).run.Within Bindless :=
  (ensure_prepares path).mono fun _ => bindless_of_prepares

theorem removeDirectory_bindless (path : String) : (removeDirectory path).run.Within Bindless := by
  refine within_run_bind (within_liftM (within_request trivial)) fun reply => ?_
  match reply with
  | .ok () => trivial
  | .error fault =>
    dsimp only
    split <;> trivial

theorem cleanup_bindless (path : String) : (cleanup path).run.Within Bindless := by
  have down : (unmount path >>= fun _ => removeDirectory path).run.Within Bindless :=
    within_run_bind (within_orFail (within_request trivial)) fun _ => removeDirectory_bindless path
  refine within_run_bind (inspect_bindless path) fun found => ?_
  cases found with
  | absent => trivial
  | empty => exact removeDirectory_bindless path
  | mounted | corrupted => exact down

end MountPoint

namespace Service

theorem fail_within {allowed : Call → Prop} (told : ∀ event, allowed (.log event)) (code : Code)
    (message : String) : (fail code message : Work Status α).run.Within allowed :=
  ⟨told _, fun _ _ => trivial⟩

theorem fail_bindless (code : Code) (message : String) :
    (fail code message : Work Status α).run.Within Bindless :=
  fail_within (fun _ => trivial) code message

/-- Staging makes its path ready and mounts what the volume's id resolves to. -/
theorem stageExclusively_within {allowed : Call → Prop} {clusters : Clusters} {r : StageRequest}
    (prepares : ∀ call, MountPoint.Prepares r.stagingPath call → allowed call)
    (mounts : ∀ v, Volume.resolve r.volumeId r.context clusters = .ok v →
      allowed (.fuseMount v r.stagingPath r.secrets)) :
    (stageExclusively clusters r).run.Within allowed := by
  have told (event : Event) : allowed (.log event) := prepares _ trivial
  refine within_run_bind (within_orFail ((MountPoint.ensure_prepares _).mono prepares))
    fun ready => ?_
  cases ready with
  | true => trivial
  | false =>
    simp only [Bool.false_eq_true, ↓reduceIte]
    cases resolved : Volume.resolve r.volumeId r.context clusters with
    | error e => trivial
    | ok volume =>
      refine within_run_bind (within_liftM (within_request (mounts volume resolved)))
        fun reply => ?_
      cases reply with
      | ok _ => exact within_liftM (within_request (told _))
      | error e => exact fail_within told _ _

theorem stage_bindless (clusters : Clusters) (r : StageRequest) :
    (stageExclusively clusters r).run.Within Bindless :=
  stageExclusively_within (fun _ => MountPoint.bindless_of_prepares) fun _ _ => trivial

theorem unstage_bindless (r : UnstageRequest) :
    (unstageExclusively r).run.Within Bindless := by
  refine within_run_bind (within_orFail (MountPoint.inspect_bindless _)) fun found => ?_
  cases found with
  | absent | empty => trivial
  | mounted | corrupted =>
    refine within_run_bind (within_orFail (MountPoint.cleanup_bindless _)) fun _ => ?_
    exact within_liftM (within_request trivial)

theorem concludePublish_bindless (r : PublishRequest) (reply : Except Mount.Error Unit) :
    (concludePublish r reply).run.Within Bindless := by
  cases reply with
  | ok _ => exact within_liftM (within_request trivial)
  | error e =>
    refine within_run_bind (within_liftM (within_request trivial)) fun removed => ?_
    split <;> exact fail_bindless _ _

theorem unpublish_bindless (r : UnpublishRequest) :
    (unpublishExclusively r).run.Within Bindless := by
  refine within_run_bind (within_orFail (MountPoint.cleanup_bindless _)) fun _ => ?_
  exact within_liftM (within_request trivial)

theorem stats_bindless (r : StatsRequest) : (statsExclusively r).run.Within Bindless :=
  (stats_idle r).mono fun _ => bindless_of_idle

end Service

/-! ## What is bound -/

namespace Request

/-- A request binds nothing, or what it publishes, whose mount answers when it is bound if and only
if it did before. -/
def Binds (r : Request) (before : Table) : Call → View → Prop
  | .bindMount source target _, v => ∃ q, r = .publish q ∧ source = q.stagingPath ∧
    target = q.targetPath ∧
    (v.table.state source = .mounted .healthy ↔ before.state source = .mounted .healthy)
  | _, _ => True

theorem binds_of_bindless {r : Request} {before : Table} {call : Call} {v : View}
    (h : Bindless call) : r.Binds before call v := by
  cases call <;> trivial

variable {clusters : Clusters} {info : Info}

theorem holds_of_bindless {p : Program interface α} (h : p.Within Bindless) (r : Request)
    (before : Table) (v : View) :
    p.Holds effects (r.Binds before) (fun _ _ => True) v :=
  (holds_of_obeys h fun _ _ _ _ _ => trivial).weaken fun _ _ => binds_of_bindless

/-- Making the target ready makes no difference to the mount that is published: it is elsewhere, or
it does not answer anyway. -/
theorem publish_binds (q : PublishRequest) (v : View) :
    (Service.publishExclusively q).run.Holds effects ((Request.publish q).Binds v.table)
      (fun _ _ => True) v := by
  have ready : (Service.atMountPoint (MountPoint.ensure q.targetPath)).run.Holds effects
      ((Request.publish q).Binds v.table)
      (fun result v' => MountPoint.Ensured q.targetPath v.table result v'.table) v := by
    have ensured := (@Service.ensure_holds none (fun _ => True) q.targetPath v).within
      (within_orFail (MountPoint.ensure_bindless q.targetPath))
    exact (ensured.weaken fun _ _ h => binds_of_bindless h.2).restrict hostEffects_of_effects
  rw [Service.publishExclusively_eq]
  refine holds_run_bind ready (fun found v₁ ensured => ?_) fun _ _ _ => trivial
  cases found with
  | true => trivial
  | false =>
    have source : v₁.table.state q.stagingPath = .mounted .healthy ↔
        v.table.state q.stagingPath = .mounted .healthy := by
      -- A path that is published on itself does not answer, or it would not have to be made ready.
      by_cases same : q.stagingPath = q.targetPath
      · obtain ⟨before, after⟩ := Service.unready ensured nofun
        rw [same, Table.state_eq_mounted_iff, Table.state_eq_mounted_iff]
        exact iff_of_false after before
      · rw [Table.state_eq_mounted_iff, Table.state_eq_mounted_iff, ensured.beside.mount? same]
    refine holds_request_bind ⟨q, rfl, rfl, rfl, source⟩ fun reply v₂ _ => ?_
    exact holds_of_bindless (Service.concludePublish_bindless q reply) _ _ v₂

theorem work_binds (r : Request) (v : View) :
    (r.work clusters info).run.Holds effects (r.Binds v.table) (fun _ _ => True) v := by
  have bindless {α : Type} {work : Work Status α} (answer : α → Answer)
      (h : work.run.Within Bindless) :
      (do return answer (← work) : Work Status Answer).run.Within Bindless :=
    within_run_bind h fun _ => trivial
  cases r with
  | publish q => exact holds_run_map (publish_binds q v)
  | stage q =>
    exact holds_of_bindless (bindless (fun _ => .done) (Service.stage_bindless clusters q)) _ _ v
  | unstage q =>
    exact holds_of_bindless (bindless (fun _ => .done) (Service.unstage_bindless q)) _ _ v
  | unpublish q =>
    exact holds_of_bindless (bindless (fun _ => .done) (Service.unpublish_bindless q)) _ _ v
  | stats q =>
    exact holds_of_bindless (bindless .stats (Service.stats_bindless q)) _ _ v
  | expand | capabilities | info => trivial

/-- A request binds what it publishes, and nothing else. -/
theorem answer_binds (r : Request) (v : View) :
    (r.answer clusters info).run.Holds effects (r.Binds v.table) (fun _ _ => True) v :=
  answer_holds_of_work (fun _ _ idle => binds_of_bindless (bindless_of_idle idle))
    (fun _ _ _ _ => trivial) (fun _ _ _ _ => trivial) fun _ names => r.work_binds { v with names }

end Request

end FuseVolumes.Node
