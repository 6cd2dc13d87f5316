import FuseVolumes.Proofs.Except
import FuseVolumes.Proofs.Node.Effects
import FuseVolumes.Proofs.Node.MountPoint
import FuseVolumes.Proofs.Node.Request

/-!
# What requests leave of the mounts

Calls to a host may fail at will, except that it tells the truth about what is mounted
(`hostEffects`). Whatever fails, a request changes no path but its own, unless it makes directories
above it; a path that was staged or published has a mount that answers, one that could not be has
none, unless a bind mount is stuck there that was refused its flags; one that was unstaged or
unpublished has no mount; and nothing else takes down a mount that answers (`requests_keep`).
-/

namespace FuseVolumes.Node

open Program Mount

/-- A mount that answers is taken down on one path at most. -/
def Spares (own : Option String) : Call → View → Prop
  | .unmount path, v => v.table.state path = .mounted .healthy → own = some path
  | _, _ => True

/-! ## Mount points -/

namespace MountPoint

/-- A mount point as it is found in a state. -/
def ofState : PathState → MountPoint
  | .absent => .absent
  | .empty => .empty
  | .mounted .healthy => .mounted
  | .mounted .disconnected | .mounted .unreadable => .corrupted

variable {own : Option String} {stuck : String → Prop}

theorem inspect_holds (path : String) (v : View) :
    (inspect path).run.Holds (hostEffects stuck) (Spares own)
      (fun result v' => result = .ok (ofState (v.table.state path)) ∧ v' = v) v := by
  refine holds_request_bind trivial ?_
  rintro _ v ⟨rfl, rfl⟩
  rw [Table.isMountPoint]
  cases state : v.table.state path with
  | absent | empty => exact ⟨rfl, rfl⟩
  | mounted health =>
    cases health with
    | disconnected => exact ⟨rfl, rfl⟩
    | healthy =>
      refine holds_request_bind trivial ?_
      rintro _ v ⟨rfl, rfl⟩
      rw [Table.probe, state]
      exact ⟨rfl, rfl⟩
    | unreadable =>
      refine holds_request_bind trivial ?_
      rintro _ v ⟨rfl, rfl⟩
      rw [Table.probe, state]
      exact ⟨trivial, fun _ _ logged => ⟨rfl, logged⟩⟩

theorem unmount_holds {path : String} {v : View}
    (spares : v.table.state path = .mounted .healthy → own = some path) :
    (unmount path).run.Holds (hostEffects stuck) (Spares own) (fun result v' =>
      (∃ e, result = .error e) ∧ v' = v ∨ result = .ok () ∧
        Elsewhere path v.table v'.table ∧ v'.table.mount? path = none) v := by
  refine holds_orFail ⟨spares, ?_⟩
  rintro reply _ rfl
  match reply with
  | .ok () => exact .inr ⟨rfl, elsewhere_removeMount _ _, Table.mount?_removeMount _ _⟩
  | .error e => exact .inl ⟨⟨_, rfl⟩, rfl⟩

/-- What is left where a mount point was made ready: a mount that answers if and only if one is
told of. One that was there is left alone. -/
structure Ensured {ε : Type} (path : String) (t : Table) (result : Except ε Bool) (t' : Table) :
    Prop where
  beside : Beside path t t'
  tells : result = .ok true ↔ t'.mount? path = some .healthy
  stays : t.mount? path = some .healthy → t' = t

theorem Ensured.unhealthy {ε : Type} {path : String} {t t' : Table} {result : Except ε Bool}
    (before : t.mount? path ≠ some .healthy) (beside : Beside path t t')
    (result_ne : result ≠ .ok true) (after : t'.mount? path ≠ some .healthy) :
    Ensured path t result t' :=
  ⟨beside, by simp [result_ne, after], fun healthy => absurd healthy before⟩

theorem makeDirectory_holds (path : String) (v : View) :
    ((ask (.makeDirectory path)).orFail (MountPointError.makeDirectory path)).run.Holds
      (hostEffects stuck) (Spares own) (fun _ v' => Beside path v.table v'.table ∧
        v'.table.mount? path = v.table.mount? path) v := by
  refine holds_orFail ⟨trivial, ?_⟩
  rintro reply _ ⟨t, paves, rfl⟩
  have kept : t.mount? path = v.table.mount? path := Table.mount?_congr paves.itself
  match reply with
  | .ok () =>
    exact ⟨paves.beside.trans (elsewhere_addDir _ _).beside, (Table.mount?_addDir _ _ _).trans kept⟩
  | .error e => exact ⟨paves.beside, kept⟩

theorem ensure_holds (path : String) (v : View) :
    (ensure path).run.Holds (hostEffects stuck) (Spares own)
      (fun result v' => Ensured path v.table result v'.table) v := by
  refine holds_run_bind (inspect_holds path v) ?_ ?_
  · rintro _ v ⟨found, rfl⟩
    cases found
    by_cases healthy : v.table.state path = .mounted .healthy
    · rw [healthy]
      have mounted := Table.state_eq_mounted_iff.1 healthy
      exact ⟨.refl _ _, by simp [mounted], fun _ => rfl⟩
    have before := mt Table.state_eq_mounted_iff.2 healthy
    cases state : v.table.state path with
    | empty => exact .unhealthy before (.refl _ _) nofun before
    | absent =>
      refine holds_run_bind (makeDirectory_holds path v) ?_ ?_
      · rintro _ v' ⟨beside, same⟩
        exact .unhealthy before beside nofun (by rwa [same])
      · rintro e v' ⟨beside, same⟩
        exact .unhealthy before beside nofun (by rwa [same])
    | mounted health =>
      cases health with
      | healthy => exact absurd state healthy
      | disconnected | unreadable =>
        refine holds_request_bind trivial ?_
        rintro _ v rfl
        refine holds_run_bind (unmount_holds fun h => absurd h healthy) ?_ ?_
        · rintro _ v' (⟨⟨_, failed⟩, -⟩ | ⟨-, elsewhere, gone⟩)
          · cases failed
          · exact .unhealthy before elsewhere.beside nofun (by rw [gone]; nofun)
        · rintro e v' (⟨-, rfl⟩ | ⟨succeeded, -⟩)
          · exact .unhealthy before (.refl _ _) nofun before
          · cases succeeded
  · rintro _ _ ⟨found, -⟩
    cases found

theorem removeDirectory_effect {path : String} {v v' : View} {reply : Except Fault Unit}
    (h : hostEffects stuck (.removeDirectory path) reply v v') :
    Elsewhere path v.table v'.table ∧ v'.table.mount? path = v.table.mount? path := by
  rcases h with rfl | rfl
  · exact ⟨.refl _ _, rfl⟩
  · match reply with
    | .ok () => exact ⟨elsewhere_removeDir _ _, rfl⟩
    | .error fault => exact ⟨.refl _ _, rfl⟩

theorem removeDirectory_holds (path : String) (v : View) :
    (removeDirectory path).run.Holds (hostEffects stuck) (Spares own) (fun _ v' =>
      Elsewhere path v.table v'.table ∧ v'.table.mount? path = v.table.mount? path) v := by
  refine holds_request_bind trivial fun reply v' removed => ?_
  match reply with
  | .ok () => exact removeDirectory_effect removed
  | .error fault =>
    dsimp only
    split <;> exact removeDirectory_effect removed

/-- What is left where a path was cleaned up: no mount, unless it failed. -/
structure Cleaned {ε α : Type} (path : String) (t : Table) (result : Except ε α) (t' : Table) :
    Prop where
  elsewhere : Elsewhere path t t'
  gone : (∃ a, result = .ok a) → t'.mount? path = none

theorem Cleaned.map {ε α β : Type} {path : String} {t t' : Table} {result : Except ε α}
    {f : α → β} (h : Cleaned path t result t') : Cleaned path t (result.map f) t' := by
  refine ⟨h.elsewhere, fun ok => h.gone ?_⟩
  cases result with
  | ok a => exact ⟨a, rfl⟩
  | error e => obtain ⟨_, ⟨⟩⟩ := ok

/-- Cleaning up is for paths on which a mount that answers may be taken down. -/
theorem cleanup_holds (path : String) (v : View) :
    (cleanup path).run.Holds (hostEffects stuck) (Spares (some path))
      (fun result v' => Cleaned path v.table result v'.table) v := by
  refine holds_run_bind (inspect_holds path v) ?_ ?_
  · rintro _ v ⟨found, rfl⟩
    cases found
    cases state : v.table.state path with
    | absent => exact ⟨.refl _ _, fun _ => Table.mount?_eq_none_iff.2 (by simp [state])⟩
    | empty =>
      have gone : v.table.mount? path = none := Table.mount?_eq_none_iff.2 (by simp [state])
      refine (removeDirectory_holds path v).mono fun _ v' h => ⟨h.1, fun _ => ?_⟩
      rw [h.2, gone]
    | mounted health =>
      have taken : (unmount path >>= fun _ => removeDirectory path).run.Holds (hostEffects stuck)
          (Spares (some path)) (fun result v' => Cleaned path v.table result v'.table) v := by
        refine holds_run_bind (unmount_holds fun _ => rfl) ?_ ?_
        · rintro _ v' (⟨⟨_, failed⟩, -⟩ | ⟨-, elsewhere, gone⟩)
          · cases failed
          · refine (removeDirectory_holds path v').mono fun _ v'' h => ⟨elsewhere.trans h.1, ?_⟩
            rw [h.2, gone]
            exact fun _ => rfl
        · rintro e v' (⟨-, rfl⟩ | ⟨succeeded, -⟩)
          · exact ⟨.refl _ _, nofun⟩
          · cases succeeded
      cases health <;> exact taken
  · rintro _ _ ⟨found, -⟩
    cases found

end MountPoint

/-! ## Work on a path -/

namespace Service

variable {own : Option String} {stuck : String → Prop}

theorem ensure_holds (path : String) (v : View) :
    (atMountPoint (MountPoint.ensure path)).run.Holds (hostEffects stuck) (Spares own)
      (fun result v' => MountPoint.Ensured path v.table result v'.table) v := by
  refine holds_orFail ((MountPoint.ensure_holds path v).mono fun result v' h => ?_)
  exact ⟨h.beside, mapError_eq_ok_iff.trans h.tells, h.stays⟩

theorem inspect_holds (path : String) (v : View) :
    (atMountPoint (MountPoint.inspect path)).run.Holds (hostEffects stuck) (Spares own)
      (fun result v' => result = .ok (MountPoint.ofState (v.table.state path)) ∧ v' = v) v := by
  refine holds_orFail ((MountPoint.inspect_holds path v).mono fun result v' h => ?_)
  rw [h.1]
  exact ⟨rfl, h.2⟩

theorem cleanup_holds (path : String) (v : View) :
    (atMountPoint (MountPoint.cleanup path)).run.Holds (hostEffects stuck) (Spares (some path))
      (fun result v' => MountPoint.Cleaned path v.table result v'.table) v := by
  refine holds_orFail ((MountPoint.cleanup_holds path v).mono fun result v' h => ?_)
  refine ⟨h.elsewhere, ?_⟩
  rintro ⟨a, ha⟩
  exact h.gone ⟨a, mapError_eq_ok_iff.1 ha⟩

theorem fail_holds {α : Type} {code : Code} {message : String} {v : View}
    {wanted : Except Status α → View → Prop} (h : wanted (.error ⟨code, message⟩) v) :
    (fail code message : Work Status α).run.Holds (hostEffects stuck) (Spares own) wanted v := by
  refine holds_request_bind trivial ?_
  rintro _ v rfl
  exact h

/-- What is left where a mount was asked for: one that answers, unless it failed. If it failed there
is none, but for one that is stuck. One that was there is left alone. -/
structure Provided (stuck : String → Prop) {ε α : Type} (path : String) (t : Table)
    (result : Except ε α) (t' : Table) : Prop where
  beside : Beside path t t'
  mounted : (∃ a, result = .ok a) → t'.mount? path = some .healthy
  failed : t'.mount? path = some .healthy → (∃ a, result = .ok a) ∨ stuck path
  stays : t.mount? path = some .healthy → t'.mount? path = some .healthy

section Provided

variable {ε α : Type} {path : String} {t t' : Table}

theorem Provided.succeeded (beside : Beside path t t') (after : t'.mount? path = some .healthy)
    (a : α) : Provided stuck path t (.ok a : Except ε α) t' :=
  ⟨beside, fun _ => after, fun _ => .inl ⟨a, rfl⟩, fun _ => after⟩

theorem Provided.of_failed (beside : Beside path t t') (before : t.mount? path ≠ some .healthy)
    (after : t'.mount? path = some .healthy → stuck path) (e : ε) :
    Provided stuck path t (.error e : Except ε α) t' :=
  ⟨beside, nofun, fun healthy => .inr (after healthy), fun healthy => absurd healthy before⟩

theorem Provided.map {β : Type} {result : Except ε α} {f : α → β}
    (h : Provided stuck path t result t') : Provided stuck path t (result.map f) t' := by
  have same : (∃ b, result.map f = .ok b) ↔ ∃ a, result = .ok a := by
    cases result <;> simp [Except.map]
  exact ⟨h.beside, fun ok => h.mounted (same.1 ok),
    fun healthy => (h.failed healthy).imp_left same.2, h.stays⟩

theorem unready {result : Except ε Bool} (h : MountPoint.Ensured path t result t')
    (hr : result ≠ .ok true) : t.mount? path ≠ some .healthy ∧ t'.mount? path ≠ some .healthy := by
  have after : t'.mount? path ≠ some .healthy := fun healthy => hr (h.tells.2 healthy)
  exact ⟨fun healthy => after (by rwa [h.stays healthy]), after⟩

end Provided

/-- Where a mount that answers is found there is nothing to do. -/
theorem provide_holds {path : String} {v : View} {f : Bool → Work Status Unit}
    (ready : (f true).run = .done (.ok ()))
    (hf : ∀ v₁ : View, Beside path v.table v₁.table → v.table.mount? path ≠ some .healthy →
      v₁.table.mount? path ≠ some .healthy → (f false).run.Holds (hostEffects stuck) (Spares own)
        (fun result v' => Provided stuck path v.table result v'.table) v₁) :
    (atMountPoint (MountPoint.ensure path) >>= f).run.Holds (hostEffects stuck) (Spares own)
      (fun result v' => Provided stuck path v.table result v'.table) v := by
  refine holds_run_bind (ensure_holds path v) (fun found v₁ ensured => ?_) fun e v₁ ensured => ?_
  · cases found with
    | true =>
      rw [ready]
      exact .succeeded ensured.beside (ensured.tells.1 rfl) ()
    | false =>
      obtain ⟨before, after⟩ := unready ensured nofun
      exact hf v₁ ensured.beside before after
  · obtain ⟨before, after⟩ := unready ensured nofun
    exact .of_failed ensured.beside before (fun healthy => absurd healthy after) e

/-- A mount that was made is told of. -/
theorem tell_holds {path : String} {t : Table} {v : View} (beside : Beside path t v.table)
    (event : Event) :
    (liftM (log event) : Work Status Unit).run.Holds (hostEffects stuck) (Spares own)
      (fun result v' => Provided stuck path t result v'.table) (v.after (·.mountHealthy path)
        (.ok () : Except ε Unit)) := by
  refine holds_liftM ⟨trivial, ?_⟩
  rintro _ _ rfl
  exact .succeeded (beside.trans (elsewhere_mountHealthy _ _).beside)
    (Table.mount?_mountHealthy _ _) ()

theorem stage_holds (clusters : Clusters) (r : StageRequest) (v : View) :
    (stageExclusively clusters r).run.Holds (hostEffects stuck) (Spares own)
      (fun result v' => Provided stuck r.stagingPath v.table result v'.table) v := by
  refine provide_holds rfl fun v₁ beside before after => ?_
  have failed (e : Status) : Provided stuck r.stagingPath v.table (.error e : Except Status Unit)
      v₁.table :=
    .of_failed beside before (fun healthy => absurd healthy after) e
  match Volume.resolve r.volumeId r.context clusters with
  | .error e => exact failed _
  | .ok volume =>
    refine holds_request_bind trivial ?_
    rintro reply _ rfl
    match reply with
    | .error e => exact fail_holds (failed _)
    | .ok () => exact tell_holds beside _

/-- Whatever could not be bind mounted is taken away, if it can be, and told of. -/
theorem withdraw_holds {r : PublishRequest} {t : Table} {v : View} {e : Mount.Error}
    (beside : Beside r.targetPath t v.table) (before : t.mount? r.targetPath ≠ some .healthy)
    (after : v.table.mount? r.targetPath = some .healthy → stuck r.targetPath) :
    (concludePublish r (.error e)).run.Holds (hostEffects stuck) (Spares own)
      (fun result v' => Provided stuck r.targetPath t result v'.table) v := by
  refine holds_request_bind trivial fun reply v' removed => ?_
  obtain ⟨elsewhere, same⟩ := MountPoint.removeDirectory_effect removed
  have failed (e : Status) : Provided stuck r.targetPath t (.error e : Except Status Unit)
      v'.table :=
    .of_failed (beside.trans elsewhere.beside) before (by rwa [same]) e
  split <;> exact fail_holds (failed _)

/-- A bind mount that was refused its flags either leaves all as it was, or is stuck. -/
theorem publish_holds (r : PublishRequest) (v : View) :
    (publishExclusively r).run.Holds (hostEffects stuck) (Spares own)
      (fun result v' => Provided stuck r.targetPath v.table result v'.table) v := by
  rw [publishExclusively_eq]
  refine provide_holds rfl fun v₁ beside before after => ?_
  refine holds_request_bind trivial ?_
  rintro reply v₂ (rfl | ⟨stays, refused, rfl⟩)
  · match reply with
    | .ok () => exact tell_holds beside _
    | .error e => exact withdraw_holds beside before fun healthy => absurd healthy after
  · match reply, refused with
    | .error (.remount _ _ _), _ =>
      exact withdraw_holds (beside.trans (elsewhere_mountHealthy _ _).beside) before fun _ => stays

/-- What was taken down is told of. -/
theorem cleanup_log_holds (path : String) (event : Event) (v : View) :
    (do atMountPoint (MountPoint.cleanup path); log event : Work Status Unit).run.Holds
      (hostEffects stuck) (Spares (some path))
      (fun result v' => MountPoint.Cleaned path v.table result v'.table) v := by
  refine holds_run_bind (cleanup_holds path v) ?_ fun e v₁ cleaned => ⟨cleaned.elsewhere, nofun⟩
  intro _ v₁ cleaned
  refine holds_liftM ⟨trivial, ?_⟩
  rintro _ _ rfl
  exact cleaned

theorem unstage_holds (r : UnstageRequest) (v : View) :
    (unstageExclusively r).run.Holds (hostEffects stuck) (Spares (some r.stagingPath))
      (fun result v' => MountPoint.Cleaned r.stagingPath v.table result v'.table) v := by
  refine holds_run_bind (inspect_holds r.stagingPath v) ?_ ?_
  · rintro _ v ⟨found, rfl⟩
    cases found
    cases state : v.table.state r.stagingPath with
    | absent | empty => exact ⟨.refl _ _, fun _ => Table.mount?_eq_none_iff.2 (by simp [state])⟩
    | mounted health => cases health <;> exact cleanup_log_holds _ _ v
  · rintro _ _ ⟨found, -⟩
    cases found

theorem unpublish_holds (r : UnpublishRequest) (v : View) :
    (unpublishExclusively r).run.Holds (hostEffects stuck) (Spares (some r.targetPath))
      (fun result v' => MountPoint.Cleaned r.targetPath v.table result v'.table) v :=
  cleanup_log_holds _ _ v

theorem stats_holds (r : StatsRequest) (v : View) :
    (statsExclusively r).run.Holds (hostEffects stuck) (Spares own)
      (fun _ v' => v'.table = v.table) v := by
  refine holds_run_bind (inspect_holds r.volumePath v) ?_ ?_
  · rintro _ v ⟨found, rfl⟩
    cases found
    match MountPoint.ofState (v.table.state r.volumePath) with
    | .absent | .empty => rfl
    | .corrupted =>
      refine holds_request_bind trivial ?_
      rintro _ _ rfl
      rfl
    | .mounted =>
      refine holds_request_bind trivial ?_
      rintro reply _ rfl
      match reply with
      | .error fault => rfl
      | .ok () => rfl
  · rintro _ _ ⟨found, -⟩
    cases found

end Service

/-! ## Requests -/

/-- A name is reserved first and given back last, unless it is in use. -/
theorem Service.exclusively_holds {α : Type} {id : String} {work : Work Status α}
    {during : Call → View → Prop} {wanted : Except Status α → View → Prop} {v : View}
    (reserve : during (.reserve id) v) (release : ∀ v', during (.release id) v')
    (taken : v.names.isReserved id = true → wanted
      (.error (Reservations.InProgress.mk id).status)
      { v with names := (v.names.tryAcquire id).2 })
    (free : v.names.isReserved id = false → work.run.Holds effects during
      (fun result v' => wanted result { v' with names := v'.names.release id })
      { v with names := (v.names.tryAcquire id).2 }) :
    (exclusively id work).run.Holds effects during wanted v := by
  rw [exclusively_run]
  refine ⟨reserve, ?_⟩
  rintro _ v₁ ⟨rfl, rfl⟩
  cases isReserved : v.names.isReserved id with
  | true => exact taken isReserved
  | false =>
    refine holds_bind (free isReserved) fun result v₂ h => ⟨release v₂, ?_⟩
    rintro _ _ rfl
    exact h

namespace Request

/-- Turned away at once: something is missing, or another request works on the volume. -/
def Barred (r : Request) (names : Reservations) : Prop :=
  ¬ r.Valid ∨ ∃ id, r.volumeId? = some id ∧ names.isReserved id = true

theorem not_barred_iff {r : Request} {id : String} {names : Reservations}
    (about : r.volumeId? = some id) :
    ¬ r.Barred names ↔ r.Valid ∧ names.isReserved id = false := by
  simp [Barred, about]

/-- What holds of the work of a request holds of the request, if names make no difference. -/
theorem answer_holds_of_work {r : Request} {v : View} {clusters : Clusters} {info : Info}
    {during : Call → View → Prop} {wanted : Except Status Answer → View → Prop}
    (idle : ∀ call v', Idle call → during call v')
    (names : ∀ result v' names, wanted result v' → wanted result { v' with names := names })
    (barred : r.Barred v.names → ∀ e v', v'.table = v.table → wanted (.error e) v')
    (work : ¬ r.Barred v.names → ∀ names, (r.work clusters info).run.Holds effects during wanted
      { v with names := names }) :
    (r.answer clusters info).run.Holds effects during wanted v := by
  by_cases valid : r.Valid
  · cases about : r.volumeId? with
    | none =>
      have same : r.work clusters info = r.answer clusters info := by
        cases r <;> first | rfl | cases about
      rw [← same]
      refine work ?_ v.names
      rintro (invalid | ⟨id, hid, -⟩)
      · exact invalid valid
      · cases about.symm.trans hid
    | some id =>
      rw [answer_of_valid valid about]
      refine Service.exclusively_holds (idle _ _ trivial) (fun _ => idle _ _ trivial)
        (fun taken => barred (.inr ⟨id, about, taken⟩) _ _ rfl) fun free => ?_
      refine (work ?_ _).mono fun result v' h => names result v' _ h
      exact (not_barred_iff about).2 ⟨valid, free⟩
  · obtain ⟨message, refused⟩ : Service.Refuses (r.answer clusters info) :=
      answer_of_not_valid valid
    rw [refused]
    refine ⟨idle _ _ trivial, ?_⟩
    rintro _ _ rfl
    exact barred (.inl valid) _ _ rfl

/-- The path that a request is to put a mount on. -/
def mounts? : Request → Option String
  | .stage r => some r.stagingPath
  | .publish r => some r.targetPath
  | _ => none

/-- The path that a request is to take a mount from. -/
def unmounts? : Request → Option String
  | .unstage r => some r.stagingPath
  | .unpublish r => some r.targetPath
  | _ => none

/-- What a request leaves of the mounts. -/
structure Kept (r : Request) (stuck : String → Prop) (before : View)
    (result : Except Status Answer) (after : View) : Prop where
  /-- Only the path of the request may change. If a mount is to be put on it, missing directories
  that it leads through may be made. -/
  others : ∀ path, r.mounts? ≠ some path → r.unmounts? ≠ some path →
    after.table.state path = before.table.state path ∨
      (∃ own, r.mounts? = some own ∧ Path.Above path own) ∧
        before.table.state path = .absent ∧ after.table.state path = .empty
  /-- Who staged or published a volume leaves a mount that answers. -/
  mounted : ∀ path, r.mounts? = some path → (∃ a, result = .ok a) →
    after.table.state path = .mounted .healthy
  /-- Who tried to and could not leaves none, but for one that is stuck. -/
  failed : ∀ path id, r.mounts? = some path → r.Valid → r.volumeId? = some id →
    before.names.isReserved id = false → (∃ e, result = .error e) →
    after.table.state path = .mounted .healthy → stuck path
  /-- Who unstaged or unpublished a volume leaves no mount. -/
  unmounted : ∀ path, r.unmounts? = some path → (∃ a, result = .ok a) →
    ∀ health, after.table.state path ≠ .mounted health
  /-- A mount that answers stays, unless it was to be taken down. -/
  stays : ∀ path, r.unmounts? ≠ some path → before.table.state path = .mounted .healthy →
    after.table.state path = .mounted .healthy

/-- What the work of a request leaves of the mounts. -/
def Leaves (r : Request) (stuck : String → Prop) (t : Table) (result : Except Status Answer)
    (t' : Table) : Prop :=
  match r.mounts?, r.unmounts? with
  | some path, _ => Service.Provided stuck path t result t'
  | none, some path => MountPoint.Cleaned path t result t'
  | none, none => t' = t

variable {clusters : Clusters} {info : Info} {stuck : String → Prop}

theorem work_holds (r : Request) (v : View) :
    (r.work clusters info).run.Holds (hostEffects stuck) (Spares r.unmounts?)
      (fun result v' => r.Leaves stuck v.table result v'.table) v := by
  cases r with
  | stage r =>
    exact holds_run_map ((Service.stage_holds clusters r v).mono fun result v' h => h.map)
  | publish r => exact holds_run_map ((Service.publish_holds r v).mono fun result v' h => h.map)
  | unstage r => exact holds_run_map ((Service.unstage_holds r v).mono fun result v' h => h.map)
  | unpublish r =>
    exact holds_run_map ((Service.unpublish_holds r v).mono fun result v' h => h.map)
  | stats r => exact holds_run_map (Service.stats_holds r v)
  | expand | capabilities | info => rfl

variable {r : Request} {before after : View} {result : Except Status Answer}

theorem unmounts?_eq_none {path : String} (h : r.mounts? = some path) : r.unmounts? = none := by
  cases r <;> first | rfl | cases h

theorem Kept.of_provided {path : String} (mounts : r.mounts? = some path)
    (h : Service.Provided stuck path before.table result after.table) :
    r.Kept stuck before result after where
  others other ho _ := by
    have apart : other ≠ path := by
      rintro rfl
      exact ho mounts
    exact (h.beside.state apart).imp_right fun ⟨above, new⟩ => ⟨⟨path, mounts, above⟩, new⟩
  mounted other ho ok := by
    cases mounts.symm.trans ho
    exact Table.state_eq_mounted_iff.2 (h.mounted ok)
  failed := by
    rintro other _ ho - - - ⟨e, rfl⟩ healthy
    cases mounts.symm.trans ho
    rcases h.failed (Table.state_eq_mounted_iff.1 healthy) with ⟨_, ⟨⟩⟩ | stays
    exact stays
  unmounted other ho := by cases (unmounts?_eq_none mounts).symm.trans ho
  stays other _ healthy := by
    rw [Table.state_eq_mounted_iff] at healthy ⊢
    by_cases ho : other = path
    · subst ho
      exact h.stays healthy
    · rwa [h.beside.mount? ho]

theorem Kept.of_cleaned {path : String} (mounts : r.mounts? = none)
    (unmounts : r.unmounts? = some path)
    (h : MountPoint.Cleaned path before.table result after.table) :
    r.Kept stuck before result after := by
  have same {other : String} (ho : r.unmounts? ≠ some other) :
      after.table.state other = before.table.state other := by
    refine Table.state_congr (h.elsewhere other ?_)
    rintro rfl
    exact ho unmounts
  refine ⟨fun other _ ho => .inl (same ho), ?_, ?_, fun other ho ok => ?_,
    fun other ho healthy => ?_⟩
  · rw [mounts]; nofun
  · rw [mounts]; nofun
  · cases unmounts.symm.trans ho
    exact Table.mount?_eq_none_iff.1 (h.gone ok)
  · rwa [same ho]

/-- Nothing was changed by a request that has no path, or was refused. -/
theorem Kept.of_same (same : after.table = before.table)
    (refused : ∀ path, r.mounts? = some path ∨ r.unmounts? = some path →
      ∃ e, result = .error e ∧
        (r.Valid → ∀ id, r.volumeId? = some id → before.names.isReserved id = true)) :
    r.Kept stuck before result after := by
  refine ⟨fun _ _ _ => .inl (by rw [same]), fun path hm ok => ?_,
    fun path id hm valid about free _ => ?_, fun path hu ok => ?_,
    fun _ _ healthy => by rwa [same]⟩
  · obtain ⟨e, rfl, -⟩ := refused path (.inl hm)
    obtain ⟨_, ⟨⟩⟩ := ok
  · obtain ⟨_, -, taken⟩ := refused path (.inl hm)
    rw [taken valid id about] at free
    cases free
  · obtain ⟨e, rfl, -⟩ := refused path (.inr hu)
    obtain ⟨_, ⟨⟩⟩ := ok

theorem Kept.of_leaves (h : r.Leaves stuck before.table result after.table) :
    r.Kept stuck before result after := by
  cases mounts : r.mounts? with
  | some path =>
    rw [Leaves, mounts] at h
    exact .of_provided mounts h
  | none =>
    cases unmounts : r.unmounts? with
    | some path =>
      rw [Leaves, mounts, unmounts] at h
      exact .of_cleaned mounts unmounts h
    | none =>
      rw [Leaves, mounts, unmounts] at h
      exact .of_same h (by simp [mounts, unmounts])

theorem answer_holds (r : Request) (v : View) :
    (r.answer clusters info).run.Holds (hostEffects stuck) (Spares r.unmounts?)
      (fun result v' => r.Kept stuck v result v') v := by
  by_cases valid : r.Valid
  · cases about : r.volumeId? with
    | none => cases r <;> first | exact Kept.of_leaves rfl | cases about
    | some id =>
      rw [answer_of_valid valid about, Service.exclusively_run]
      refine ⟨trivial, ?_⟩
      rintro _ v₁ ⟨rfl, rfl⟩
      cases taken : v.names.isReserved id with
      | true =>
        refine Kept.of_same rfl fun _ _ => ⟨_, rfl, fun _ other hother => ?_⟩
        cases about.symm.trans hother
        exact taken
      | false =>
        refine holds_bind (work_holds r _) fun result v₂ leaves => ⟨trivial, ?_⟩
        rintro _ _ rfl
        exact Kept.of_leaves leaves
  · obtain ⟨message, refused⟩ : Service.Refuses (r.answer clusters info) :=
      answer_of_not_valid valid
    rw [refused]
    exact Service.fail_holds (.of_same rfl fun _ _ => ⟨_, rfl, fun h => absurd h valid⟩)

end Request

/-! ## Runs of requests -/

section Runs

variable {σ : Type} {handler : Handler interface σ} {view : σ → View} {sound : σ → Prop}
  {clusters : Clusters} {info : Info}

/-- A call bind mounts on the path, is refused the flags, and leaves the mount there. -/
def Sticks (handler : Handler interface σ) (view : σ → View) (path : String) : Call → σ → Prop
  | .bindMount source target options, s =>
    target = path ∧ FlagsRefused (handler (.bindMount source target options) s).1 ∧
      (view (handler (.bindMount source target options) s).2).table.state target =
        .mounted .healthy
  | _, _ => False

instance (handler : Handler interface σ) (view : σ → View) (path : String) (call : Call) (s : σ) :
    Decidable (Sticks handler view path call s) :=
  match call with
  | .bindMount _ _ _ => inferInstanceAs (Decidable (_ ∧ _ ∧ _))
  | .reserve _ | .release _ | .log _ | .isMountPoint _ | .probe _ | .makeDirectory _ | .unmount _
  | .removeDirectory _ | .fuseMount _ _ _ | .statFileSystem _ => .isFalse id

/-- In a run of a program a mount gets stuck on the path. -/
def Stuck (handler : Handler interface σ) (view : σ → View) {α : Type} (p : Program interface α)
    (s : σ) (path : String) : Prop :=
  ∃ x ∈ p.met handler s, Sticks handler view path x.1 x.2

instance {α : Type} (handler : Handler interface σ) (view : σ → View) (p : Program interface α)
    (s : σ) (path : String) : Decidable (Stuck handler view p s path) :=
  inferInstanceAs (Decidable (∃ x ∈ p.met handler s, Sticks handler view path x.1 x.2))

/-- On a host, mounts that were refused their flags stay where one sticks, and nowhere else. -/
theorem hostEffects_of_sticks {stuck : String → Prop} {call : Call} {s : σ}
    (h : hostEffects (fun _ => True) call (handler call s).1 (view s) (view (handler call s).2))
    (sticks : ∀ path, Sticks handler view path call s → stuck path) :
    hostEffects stuck call (handler call s).1 (view s) (view (handler call s).2) := by
  cases call with
  | bindMount source target options =>
    refine h.imp_right fun ⟨_, refused, left⟩ => ⟨sticks target ⟨rfl, refused, ?_⟩, refused, left⟩
    rw [left, Table.state_eq_mounted_iff]
    exact Table.mount?_mountHealthy _ _
  | _ => exact h

/-- A mount that answers stays throughout a run that is not to take it down. -/
theorem healthy_stays (behaves : Behaves handler (hostEffects fun _ => True) view sound) {s : σ}
    (hs : sound s) {path : String} (healthy : (view s).table.state path = .mounted .healthy)
    (requests : List Request) (spared : ∀ r ∈ requests, r.unmounts? ≠ some path) :
    (view (runAll handler (requests.map fun r => (r.answer clusters info).run) s).2).table.state
      path = .mounted .healthy := by
  induction requests generalizing s with
  | nil => exact healthy
  | cons r rest ih =>
    rw [List.forall_mem_cons] at spared
    obtain ⟨kept, -⟩ := (r.answer_holds (view s)).run behaves hs
    exact ih (behaves.run _ hs) (kept.stays path spared.1 healthy) spared.2

end Runs

end FuseVolumes.Node
