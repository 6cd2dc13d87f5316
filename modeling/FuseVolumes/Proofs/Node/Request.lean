import FuseVolumes.Node.Service
import FuseVolumes.Proofs.Program.Requests

/-!
# Requests on a volume

A request names a volume and a path. Unless it is refused for its form it reserves the volume's
name, does its work on the path, and gives the name back (`Request.answer_of_valid`).
-/

namespace FuseVolumes.Node

open Program

namespace Service

variable {α β : Type}

/-- The name is asked for first, and given back last. -/
theorem exclusively_run (volumeId : String) (work : Work Status α) :
    (exclusively volumeId work).run = .ask (I := interface) (.reserve volumeId) fun
      | true => work.run.bind fun result =>
        .ask (I := interface) (.release volumeId) fun _ => .done result
      | false => .done (.error (Reservations.InProgress.mk volumeId).status) := by
  change Program.ask _ _ = Program.ask _ _
  congr 1
  funext taken
  cases taken <;> rfl

/-- What becomes of the result makes no difference to the name. -/
theorem exclusively_bind_pure (volumeId : String) (work : Work Status α) (f : α → β) :
    (do return f (← exclusively volumeId work) : Work Status β) =
      exclusively volumeId (do return f (← work)) := by
  change (exclusively volumeId work).run.bind _ = (exclusively volumeId _).run
  rw [exclusively_run, exclusively_run]
  change Program.ask _ _ = Program.ask _ _
  congr 1
  funext taken
  cases taken with
  | false => rfl
  | true =>
    change (work.run.bind _).bind _ = (work.run.bind _).bind _
    rw [bind_assoc, bind_assoc]
    congr 1
    funext result
    cases result <;> rfl

/-- Work that is refused for its form. -/
def Refuses (work : Work Status α) : Prop := ∃ message, work = refuse message

theorem Refuses.bind {work : Work Status α} {f : α → Work Status β} (h : Refuses work) :
    Refuses (work >>= f) := by
  obtain ⟨message, rfl⟩ := h
  exact ⟨message, rfl⟩

theorem Refuses.ite {c : Prop} [Decidable c] {message : String} {work : Work Status α}
    (h : ¬ c → Refuses work) : Refuses (if c then refuse message else work) := by
  split
  · exact ⟨message, rfl⟩
  next hc => exact h hc

/-- What is left to do for a publication once its bind mount is answered. -/
def concludePublish (r : PublishRequest) : Except Mount.Error Unit → Work Status Unit
  | .ok () =>
    let options := publishOptions (mountFlags r.capability) r.readOnly
    log <| .info .node
      s!"Volume {r.volumeId} published on {r.targetPath} with {Text.quotedList options}"
  | .error e => do
    match ← ask (.removeDirectory r.targetPath) with
    | .ok () | .error (.errno 2) =>
      fail .internal s!"Failed to publish volume {r.volumeId}: {e.message}"
    | .error fault =>
      fail .internal (s!"Failed to publish volume {r.volumeId}: could not remove mount target "
        ++ s!"{r.targetPath}: {fault.message}")

theorem publishExclusively_eq (r : PublishRequest) :
    publishExclusively r = (do
      if ← atMountPoint (MountPoint.ensure r.targetPath) then return ()
      let reply ← ask (.bindMount r.stagingPath r.targetPath
        (publishOptions (mountFlags r.capability) r.readOnly))
      concludePublish r reply) := by
  rw [publishExclusively]
  congr 1
  funext found
  cases found with
  | true => rfl
  | false =>
    simp only [Bool.false_eq_true, if_false]
    congr 1
    funext reply
    cases reply <;> rfl

end Service

namespace Request

/-- The volume a request is about. -/
def volumeId? : Request → Option String
  | .stage r => some r.volumeId
  | .unstage r => some r.volumeId
  | .publish r => some r.volumeId
  | .unpublish r => some r.volumeId
  | .stats r => some r.volumeId
  | .expand | .capabilities | .info => none

/-- Nothing that the request needs is missing, and its capability is good for a mount. -/
def Valid : Request → Prop
  | .stage r =>
    r.volumeId ≠ "" ∧ r.stagingPath ≠ "" ∧ Service.capabilityFault? r.capability = none
  | .unstage r => r.volumeId ≠ "" ∧ r.stagingPath ≠ ""
  | .publish r => r.volumeId ≠ "" ∧ r.stagingPath ≠ "" ∧ r.targetPath ≠ "" ∧
    Service.capabilityFault? r.capability = none
  | .unpublish r => r.volumeId ≠ "" ∧ r.targetPath ≠ ""
  | .stats r => r.volumeId ≠ "" ∧ r.volumePath ≠ ""
  | .expand | .capabilities | .info => True

/-- What a request does when nobody else works on its volume. One that is about no volume does all
it does. -/
def work (clusters : Clusters) (info : Info) : Request → Work Status Answer
  | .stage r => do Service.stageExclusively clusters r; return .done
  | .unstage r => do Service.unstageExclusively r; return .done
  | .publish r => do Service.publishExclusively r; return .done
  | .unpublish r => do Service.unpublishExclusively r; return .done
  | .stats r => do return .stats (← Service.statsExclusively r)
  | r => r.answer clusters info

variable {clusters : Clusters} {info : Info} {r : Request} {id : String}

theorem answer_of_valid (valid : r.Valid) (about : r.volumeId? = some id) :
    r.answer clusters info = Service.exclusively id (r.work clusters info) := by
  cases r with
  | stage r =>
    obtain rfl : r.volumeId = id := Option.some.inj about
    obtain ⟨hid, hpath, hcapability⟩ := valid
    rw [work, ← Service.exclusively_bind_pure]
    simp [answer, Service.stage, hid, hpath, hcapability]
  | unstage r =>
    obtain rfl : r.volumeId = id := Option.some.inj about
    obtain ⟨hid, hpath⟩ := valid
    rw [work, ← Service.exclusively_bind_pure]
    simp [answer, Service.unstage, hid, hpath]
  | publish r =>
    obtain rfl : r.volumeId = id := Option.some.inj about
    obtain ⟨hid, hstaging, htarget, hcapability⟩ := valid
    rw [work, ← Service.exclusively_bind_pure]
    simp [answer, Service.publish, hid, hstaging, htarget, hcapability]
  | unpublish r =>
    obtain rfl : r.volumeId = id := Option.some.inj about
    obtain ⟨hid, hpath⟩ := valid
    rw [work, ← Service.exclusively_bind_pure]
    simp [answer, Service.unpublish, hid, hpath]
  | stats r =>
    obtain rfl : r.volumeId = id := Option.some.inj about
    obtain ⟨hid, hpath⟩ := valid
    rw [work, ← Service.exclusively_bind_pure]
    simp [answer, Service.stats, hid, hpath]
  | expand | capabilities | info => cases about

/-- A request with something missing is refused for it. -/
theorem answer_of_not_valid (invalid : ¬ r.Valid) :
    Service.Refuses (r.answer clusters info) := by
  cases r with
  | stage r =>
    refine Service.Refuses.bind (.ite fun hid => .ite fun hpath => ?_)
    split
    · exact ⟨_, rfl⟩
    next hcapability => exact absurd ⟨by simpa using hid, by simpa using hpath, hcapability⟩ invalid
  | unstage r =>
    refine Service.Refuses.bind (.ite fun hid => .ite fun hpath => ?_)
    exact absurd ⟨by simpa using hid, by simpa using hpath⟩ invalid
  | publish r =>
    refine Service.Refuses.bind ?_
    rw [Service.publish]
    split
    · exact ⟨_, rfl⟩
    next hcapability =>
      refine .ite fun hid => .ite fun htarget => .ite fun hstaging => ?_
      exact absurd ⟨by simpa using hid, by simpa using hstaging, by simpa using htarget,
        hcapability⟩ invalid
  | unpublish r =>
    refine Service.Refuses.bind (.ite fun hid => .ite fun hpath => ?_)
    exact absurd ⟨by simpa using hid, by simpa using hpath⟩ invalid
  | stats r =>
    refine Service.Refuses.bind (.ite fun hid => .ite fun hpath => ?_)
    exact absurd ⟨by simpa using hid, by simpa using hpath⟩ invalid
  | expand | capabilities | info => exact absurd trivial invalid

end Request

end FuseVolumes.Node
