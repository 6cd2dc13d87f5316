import FuseVolumes.Proofs.Controller.Granted
import FuseVolumes.Proofs.Reservations

/-!
# Requests that are sent again

On an engine that does as it is told, work comes to a result and to quotas that follow from the
quotas before (`Comes`). The outcome of a request is settled: once it is there, the same request
leaves it as it is and gets the same answer (`Request.answer_repeats`). So a request can be sent
again, a volume that was created is there, and its handle is good to delete it, and nothing else
(`requests_repeat`).
-/

namespace FuseVolumes

open Program

namespace Controller

open Engine (Work Place Quotas Host View)
open Engine.Pool (place)
open Engine.Quotas (provided provided_self provided_of_ne provided_of_isSome provided_of_eq_none)

/-! ## Outcomes -/

/-- A result and the quotas that go with it. -/
abbrev Outcome (α : Type) := Quotas → Except Status α × Quotas

namespace Outcome

variable {α β : Type}

/-- A result that leaves the quotas as they are. -/
def still (result : Except Status α) : Outcome α := fun quotas => (result, quotas)

def map (f : α → β) (outcome : Outcome α) : Outcome β :=
  fun quotas => ((outcome quotas).1.map f, (outcome quotas).2)

/-- Work on a name is refused while the name is in use. -/
def exclusively (names : Reservations) (name : String) (outcome : Outcome α) : Outcome α :=
  if names.isReserved name then still (.error (Reservations.InProgress.mk name).status)
  else outcome

/-- Work for a user, as far as there are credentials. -/
def asAdmin (host : Host) (secrets : Dict) (outcome : String → Outcome α) : Outcome α :=
  match Credentials.select .admin secrets with
  | .error e => still (.error e.status)
  | .ok (user, _) =>
    match host.keyFault with
    | some fault => still (.error (Credentials.Error.keyFile Credentials.keyDirectory fault).status)
    | none => outcome user

/-- An outcome that comes again. -/
def Settled (outcome : Outcome α) : Prop := ∀ quotas, outcome (outcome quotas).2 = outcome quotas

theorem settled_still (result : Except Status α) : (still result).Settled := fun _ => rfl

theorem Settled.map {outcome : Outcome α} (h : outcome.Settled) (f : α → β) :
    (outcome.map f).Settled := by
  intro quotas
  simp only [Outcome.map, h quotas]

theorem Settled.exclusively {outcome : Outcome α} (h : outcome.Settled) (names : Reservations)
    (name : String) : (outcome.exclusively names name).Settled := by
  unfold Outcome.exclusively
  split
  · exact settled_still _
  · exact h

theorem settled_asAdmin {outcome : String → Outcome α} (h : ∀ user, (outcome user).Settled)
    (host : Host) (secrets : Dict) : (asAdmin host secrets outcome).Settled := by
  unfold asAdmin
  split
  · exact settled_still _
  · split
    · exact settled_still _
    · exact h _

end Outcome

/-- Work comes to an outcome while names are in use, and leaves them so. -/
def Comes {α : Type} (host : Host) (names : Reservations) (work : Work Status α)
    (outcome : Outcome α) : Prop :=
  ∀ quotas, work.run.Holds host.effects (fun _ _ => True)
    (fun result w => result = (outcome quotas).1 ∧ w = ⟨(outcome quotas).2, names⟩)
    ⟨quotas, names⟩

section Comes

variable {α β : Type} {host : Host} {names : Reservations}

theorem comes_still (result : Except Status α) :
    Comes host names (ExceptT.mk (.done result)) (.still result) := fun _ => ⟨rfl, rfl⟩

theorem Comes.map {work : Work Status α} {outcome : Outcome α} (h : Comes host names work outcome)
    (f : α → β) : Comes host names (do return f (← work)) (outcome.map f) := by
  intro quotas
  refine holds_run_map ((h quotas).mono ?_)
  rintro _ _ ⟨rfl, rfl⟩
  exact ⟨rfl, rfl⟩

theorem Comes.exclusively {work : Work Status α} {outcome : Outcome α}
    (h : ∀ names, Comes host names work outcome) (name : String) :
    Comes host names (Service.exclusively name work) (outcome.exclusively names name) := by
  intro quotas
  refine Host.reserving_holds (fun isReserved => ?_) fun free => ?_
  · rw [Outcome.exclusively, if_pos isReserved]
    exact ⟨rfl, rfl⟩
  · rw [Outcome.exclusively, if_neg (by simp [show names.isReserved name = false from free])]
    refine (h _ quotas).mono ?_
    rintro _ _ ⟨rfl, rfl⟩
    exact ⟨rfl, congrArg (View.mk _) (Reservations.release_tryAcquire free)⟩

theorem comes_asAdmin {work : Credentials → Work Status α} {outcome : String → Outcome α}
    (h : ∀ c, Comes host names (work c) (outcome c.user)) (secrets : Dict) :
    Comes host names (Service.asAdmin secrets work) (.asAdmin host secrets outcome) := by
  intro quotas
  refine Host.withCredentials_holds (fun e failed => ?_) (fun user key fault selected fails => ?_)
    fun user key file selected staged => ?_
  · rw [Outcome.asAdmin, failed]
    exact ⟨rfl, rfl⟩
  · rw [Outcome.asAdmin, selected]
    simp only [fails]
    exact ⟨rfl, rfl⟩
  · rw [Outcome.asAdmin, selected]
    simp only [staged]
    exact h ⟨user, file⟩ quotas

end Comes

/-! ## Services -/

namespace Service

/-- A volume that is created, or found. -/
def creates (clusters : Clusters) (r : CreateRequest) (user : String) : Outcome Created :=
  match Volume.ofRequest r.name r.parameters (r.required.getD 0) user clusters with
  | .error e => .still (.error e.status)
  | .ok v => fun quotas =>
    (.ok (created r v), provided quotas (place v) (Capacity.wholeGib v.capacity))

/-- A volume that is deleted, or is not there. Any other handle is passed over. -/
def deletes (clusters : Clusters) (r : DeleteRequest) : Outcome Unit :=
  match Volume.ofHandle r.volumeId none clusters with
  | .error (.invalidVolumeId _ _) => .still (.ok ())
  | .error e => .still (.error e.status)
  | .ok v => fun quotas => (.ok (), Function.update quotas (place v) none)

/-- A volume that is resized, if it is there. -/
def expands (host : Host) (clusters : Clusters) (r : ExpandRequest) (required : Int) :
    Outcome Expanded :=
  match Volume.ofHandle r.volumeId (some required) clusters with
  | .error e => .still (.error e.status)
  | .ok v => fun quotas =>
    if (quotas (place v)).isSome then
      (.ok ⟨Capacity.roundUp v.capacity, false⟩,
        Function.update quotas (place v) (some (Capacity.wholeGib v.capacity)))
    else
      (.error (Engine.Error.failed .quota v.name (host.output quotas v.poolUrl
        (.quota v.name (Capacity.wholeGib v.capacity)))).status, quotas)

theorem settled_creates (clusters : Clusters) (r : CreateRequest) (user : String) :
    (creates clusters r user).Settled := by
  unfold creates
  split
  · exact Outcome.settled_still _
  · intro quotas
    exact congrArg (Prod.mk _) Engine.Quotas.provided_provided

theorem settled_deletes (clusters : Clusters) (r : DeleteRequest) :
    (deletes clusters r).Settled := by
  unfold deletes
  split
  · exact Outcome.settled_still _
  · exact Outcome.settled_still _
  · intro quotas
    exact congrArg (Prod.mk _) (Function.update_idem ..)

theorem settled_expands (host : Host) (clusters : Clusters) (r : ExpandRequest) (required : Int) :
    (expands host clusters r required).Settled := by
  unfold expands
  split
  · exact Outcome.settled_still _
  next v made =>
    intro quotas
    by_cases there : (quotas (place v)).isSome = true
    · simp [there]
    · simp [there]

section Comes

variable (host : Host) (names : Reservations) (clusters : Clusters) (c : Credentials)

theorem provide_comes (v : Volume) (quotas : Quotas) :
    (provide v c).run.Holds host.effects (fun _ _ => True) (fun result w => result = .ok () ∧
      w = ⟨provided quotas (place v) (Capacity.wholeGib v.capacity), names⟩) ⟨quotas, names⟩ := by
  refine onPool_holds (Engine.Pool.exists_comes host v c ⟨quotas, names⟩) ?_ fun _ _ h => nomatch h
  rintro found _ ⟨told, rfl⟩
  have there : found = (quotas (place v)).isSome := Except.ok.inj told
  cases found with
  | true => exact ⟨rfl, congrArg (View.mk · names) (provided_of_isSome there.symm).symm⟩
  | false =>
    have absent : quotas (place v) = none := by simpa using there.symm
    refine onPool_holds (Engine.Pool.create_comes host v c ⟨quotas, names⟩) ?_
      fun _ _ h => nomatch h
    rintro _ _ ⟨-, rfl⟩
    refine ⟨trivial, ?_⟩
    rintro _ _ rfl
    exact ⟨rfl, congrArg (View.mk · names) (provided_of_eq_none absent).symm⟩

theorem createExclusively_comes (r : CreateRequest) :
    Comes host names (createExclusively clusters r c) (creates clusters r c.user) := by
  intro quotas
  rw [createExclusively, creates]
  cases Volume.ofRequest r.name r.parameters (r.required.getD 0) c.user clusters with
  | error e => exact comes_still _ quotas
  | ok v =>
    refine holds_run_bind (provide_comes host names c v quotas) ?_ fun _ _ h => nomatch h
    rintro _ _ ⟨-, rfl⟩
    exact ⟨rfl, rfl⟩

theorem deleteExclusively_comes (r : DeleteRequest) :
    Comes host names (deleteExclusively clusters r c) (deletes clusters r) := by
  intro quotas
  rw [deleteExclusively, deletes]
  cases Volume.ofHandle r.volumeId none clusters with
  | error e =>
    cases e with
    | invalidVolumeId id cause =>
      exact info_holds (fun _ _ _ _ same => same) (comes_still (.ok ()) quotas)
    | missingClusterId | composeVolumeId name cause | nonStaticVolume id | invalidStaticFlag value
    | cluster cause => exact comes_still _ quotas
  | ok v =>
    refine onPool_holds (Engine.Pool.delete_comes host v c ⟨quotas, names⟩) ?_
      fun _ _ h => nomatch h
    rintro _ _ ⟨-, rfl⟩
    exact info_holds (fun _ _ _ _ same => same) ⟨rfl, rfl⟩

theorem expandExclusively_comes (r : ExpandRequest) (required : Int) :
    Comes host names (expandExclusively clusters r required c)
      (expands host clusters r required) := by
  intro quotas
  rw [expandExclusively, expands]
  cases Volume.ofHandle r.volumeId (some required) clusters with
  | error e => exact comes_still _ quotas
  | ok v =>
    by_cases there : (quotas (place v)).isSome = true
    · simp only [there, if_true]
      refine onPool_holds (Engine.Pool.resize_comes host v c ⟨quotas, names⟩ there) ?_
        fun _ _ h => nomatch h
      rintro _ _ ⟨⟨⟩, rfl⟩
      exact info_holds (fun _ _ _ _ same => same) ⟨rfl, rfl⟩
    · have absent : quotas (place v) = none := by simpa using there
      simp only [there, Bool.false_eq_true, if_false]
      refine onPool_holds (Engine.Pool.resize_misses host v c ⟨quotas, names⟩ absent)
        (fun _ _ h => nomatch h.1) ?_
      rintro _ _ ⟨⟨⟩, rfl⟩
      exact ⟨rfl, rfl⟩

theorem creation_comes (r : CreateRequest) :
    Comes host names
      (asAdmin r.secrets fun c => exclusively r.name (createExclusively clusters r c))
      (.asAdmin host r.secrets fun user => (creates clusters r user).exclusively names r.name) :=
  comes_asAdmin (fun c =>
    .exclusively (fun names => createExclusively_comes host names clusters c r) r.name) r.secrets

theorem deletion_comes (r : DeleteRequest) :
    Comes host names
      (asAdmin r.secrets fun c => exclusively r.volumeId (deleteExclusively clusters r c))
      (.asAdmin host r.secrets fun _ => (deletes clusters r).exclusively names r.volumeId) :=
  comes_asAdmin (fun c =>
    .exclusively (fun names => deleteExclusively_comes host names clusters c r) r.volumeId)
    r.secrets

end Comes

end Service

/-! ## Creating and deleting -/

namespace Outcome

variable {α : Type} {host : Host} {names : Reservations} {name : String} {secrets : Dict}
  {quotas : Quotas} {a : α}

/-- Work that succeeds had its name. -/
theorem exclusively_of_ok {outcome : Outcome α}
    (h : (outcome.exclusively names name quotas).1 = .ok a) :
    outcome.exclusively names name quotas = outcome quotas := by
  unfold Outcome.exclusively at h ⊢
  split
  next isReserved =>
    rw [if_pos isReserved] at h
    cases h
  · rfl

/-- Work that succeeds had its credentials. -/
theorem asAdmin_of_ok {outcome : String → Outcome α}
    (h : (asAdmin host secrets outcome quotas).1 = .ok a) :
    host.keyFault = none ∧
      ∃ user, asAdmin host secrets outcome quotas = outcome user quotas := by
  rw [asAdmin] at h ⊢
  cases selected : Credentials.select .admin secrets with
  | error e =>
    rw [selected] at h
    cases h
  | ok pair =>
    cases staged : host.keyFault with
    | some fault =>
      simp only [selected, staged] at h
      cases h
    | none => exact ⟨rfl, pair.1, rfl⟩

end Outcome

namespace Service

variable {host : Host} {clusters : Clusters}

/-- What a request that succeeds has made of the view before: the volume is there, and all others
are as they were. -/
def Provides (host : Host) (clusters : Clusters) (r : CreateRequest) (before : View)
    (volume : Created) (after : View) : Prop :=
  host.keyFault = none ∧
    ∃ user v, Volume.ofRequest r.name r.parameters (r.required.getD 0) user clusters = .ok v ∧
      volume = created r v ∧ after =
        ⟨provided before.quotas (place v) (Capacity.wholeGib v.capacity), before.names⟩

theorem create_provides (r : CreateRequest) (w : View) :
    (create clusters r).run.Holds host.effects (fun _ _ => True) (fun result w' =>
      ∀ volume, result = .ok volume → Provides host clusters r w volume w') w := by
  rcases create_cases clusters r with ⟨message, refused⟩ | granted
  · rw [refused]
    exact fun _ => nofun
  · rw [granted]
    refine (creation_comes host w.names clusters r w.quotas).mono ?_
    rintro _ _ ⟨rfl, rfl⟩ volume succeeded
    obtain ⟨staged, user, same⟩ := Outcome.asAdmin_of_ok succeeded
    rw [same] at succeeded ⊢
    have named := Outcome.exclusively_of_ok succeeded
    rw [named, creates] at succeeded ⊢
    refine ⟨staged, user, ?_⟩
    cases made : Volume.ofRequest r.name r.parameters (r.required.getD 0) user clusters with
    | error e =>
      rw [made] at succeeded
      cases succeeded
    | ok v =>
      rw [made] at succeeded
      cases succeeded
      exact ⟨v, rfl, rfl, rfl⟩

/-- A handle is good to delete the volume that it is for, and no other. -/
theorem delete_removes {id : String} {v : Volume} {secrets : Dict} {admin : String × String}
    {w : View} (made : Volume.ofHandle id none clusters = .ok v)
    (selected : Credentials.select .admin secrets = .ok admin) (staged : host.keyFault = none)
    (free : w.names.isReserved id = false) :
    (delete clusters ⟨id, secrets⟩).run.Holds host.effects (fun _ _ => True) (fun result w' =>
      result = .ok () ∧ w' = ⟨Function.update w.quotas (place v) none, w.names⟩) w := by
  have named : id.isEmpty = false := by
    cases empty : id.isEmpty with
    | false => rfl
    | true =>
      rw [String.isEmpty_iff.1 empty] at made
      cases made
  have granted : delete clusters ⟨id, secrets⟩ = asAdmin secrets fun c =>
      exclusively id (deleteExclusively clusters ⟨id, secrets⟩ c) := by
    rw [delete, named]
    rfl
  have outcome : Outcome.asAdmin host secrets
      (fun _ => (deletes clusters ⟨id, secrets⟩).exclusively w.names id) w.quotas =
      (.ok (), Function.update w.quotas (place v) none) := by
    rw [Outcome.asAdmin, selected]
    simp only [staged]
    rw [Outcome.exclusively, free, deletes, made]
    rfl
  rw [granted]
  refine (deletion_comes host w.names clusters ⟨id, secrets⟩ w.quotas).mono ?_
  rintro _ _ ⟨rfl, rfl⟩
  rw [outcome]
  exact ⟨rfl, rfl⟩

end Service

/-! ## Requests -/

/-- Work that comes to a settled outcome. -/
def Repeats {α : Type} (host : Host) (names : Reservations) (work : Work Status α) : Prop :=
  ∃ outcome, Comes host names work outcome ∧ outcome.Settled

section Repeats

variable {α β : Type} {host : Host} {names : Reservations}

theorem repeats_still (result : Except Status α) :
    Repeats host names (ExceptT.mk (.done result)) :=
  ⟨_, comes_still result, Outcome.settled_still result⟩

theorem Repeats.map {work : Work Status α} (h : Repeats host names work) (f : α → β) :
    Repeats host names (do return f (← work)) := by
  obtain ⟨outcome, comes, settled⟩ := h
  exact ⟨outcome.map f, comes.map f, settled.map f⟩

end Repeats

/-- **Outcomes.** Every request comes to a settled outcome. -/
theorem Request.answer_repeats (host : Host) (names : Reservations) (clusters : Clusters)
    (r : Request) : Repeats host names (r.answer clusters) := by
  cases r with
  | create r =>
    refine Repeats.map ?_ Answer.created
    rcases Service.create_cases clusters r with ⟨message, refused⟩ | granted
    · rw [refused]
      exact repeats_still _
    · rw [granted]
      exact ⟨_, Service.creation_comes host names clusters r, Outcome.settled_asAdmin (fun user =>
          (Service.settled_creates clusters r user).exclusively names r.name) host r.secrets⟩
  | delete r =>
    refine Repeats.map ?_ fun _ => Answer.deleted
    rcases Service.delete_cases clusters r with ⟨message, refused⟩ | granted
    · rw [refused]
      exact repeats_still _
    · rw [granted]
      exact ⟨_, Service.deletion_comes host names clusters r, Outcome.settled_asAdmin (fun _ =>
          (Service.settled_deletes clusters r).exclusively names r.volumeId) host r.secrets⟩
  | expand r =>
    refine Repeats.map ?_ Answer.expanded
    rcases Service.expand_cases clusters r with ⟨message, refused⟩ | ⟨required, -, granted⟩
    · rw [refused]
      exact repeats_still _
    · rw [granted]
      exact ⟨_, Comes.exclusively (fun names => comes_asAdmin (fun c =>
          Service.expandExclusively_comes host names clusters c r required) r.secrets) r.volumeId,
        (Outcome.settled_asAdmin (fun _ => Service.settled_expands host clusters r required) host
          r.secrets).exclusively names r.volumeId⟩
  | validate r =>
    refine Repeats.map ?_ Answer.validated
    rcases Service.validate_cases r with ⟨message, refused⟩ | ⟨answer, given⟩
    · rw [refused]
      exact repeats_still _
    · rw [given]
      exact repeats_still (.ok answer)
  | capabilities => exact repeats_still (.ok _)
  | other => exact repeats_still (.error _)

section Runs

variable {σ : Type} {handler : Handler Engine.interface σ} {host : Host} {view : σ → View}
  {sound : σ → Prop} (behaves : Behaves handler host.effects view sound) (clusters : Clusters)
include behaves

/-- Work that repeats gets the same answer again, and leaves everything as it is. -/
theorem Repeats.run {α : Type} {work : Work Status α} {s : σ}
    (h : Repeats host (view s).names work) (hs : sound s) :
    let first := work.run.run handler s
    let again := work.run.run handler first.2
    again.1 = first.1 ∧ view again.2 = view first.2 ∧ (view first.2).names = (view s).names := by
  intro first again
  obtain ⟨outcome, comes, settled⟩ := h
  obtain ⟨⟨answered, left⟩, -⟩ := (comes (view s).quotas).run behaves hs
  -- The names in use are as before, so the same outcome comes from the quotas that are left.
  have next := comes (outcome (view s).quotas).2
  rw [← left] at next
  obtain ⟨⟨answered', left'⟩, -⟩ := next.run behaves (behaves.run _ hs)
  rw [settled (view s).quotas] at answered' left'
  exact ⟨answered'.trans answered.symm, left'.trans left.symm, (congrArg View.names left :)⟩

theorem create_run (q : CreateRequest) {s : σ} (hs : sound s) :
    let last := ((Request.create q).answer clusters).run.run handler s
    ∀ answer, last.1 = .ok answer → ∃ volume, answer = .created volume ∧
      Service.Provides host clusters q (view s) volume (view last.2) := by
  have provides : ((Request.create q).answer clusters).run.Holds host.effects (fun _ _ => True)
      (fun result w => ∀ answer, result = .ok answer → ∃ volume, answer = .created volume ∧
        Service.Provides host clusters q (view s) volume w) (view s) := by
    refine holds_run_map ((Service.create_provides q (view s)).mono ?_)
    intro result w h answer succeeded
    cases result with
    | error e => cases succeeded
    | ok volume =>
      cases succeeded
      exact ⟨volume, rfl, h volume rfl⟩
  exact (provides.run behaves hs).1

theorem delete_run {id : String} {v : Volume} {secrets : Dict} {admin : String × String} {s : σ}
    (made : Volume.ofHandle id none clusters = .ok v)
    (selected : Credentials.select .admin secrets = .ok admin) (staged : host.keyFault = none)
    (free : (view s).names.isReserved id = false) (hs : sound s) :
    let last := ((Request.delete ⟨id, secrets⟩).answer clusters).run.run handler s
    last.1 = .ok .deleted ∧
      view last.2 = ⟨Function.update (view s).quotas (place v) none, (view s).names⟩ := by
  have removes : ((Request.delete ⟨id, secrets⟩).answer clusters).run.Holds host.effects
      (fun _ _ => True) (fun result w => result = .ok .deleted ∧
        w = ⟨Function.update (view s).quotas (place v) none, (view s).names⟩) (view s) := by
    refine holds_run_bind (Service.delete_removes made selected staged free) ?_
      fun _ _ h => nomatch h
    rintro _ _ ⟨-, rfl⟩
    exact ⟨rfl, rfl⟩
  exact (removes.run behaves hs).1

/-- **Retries.** On an engine that does as it is told, a request that is sent again gets the same
answer and changes nothing. Once a volume is created it is there, nothing else is changed, and its
handle is good to delete it at any time, and nothing else. -/
theorem requests_repeat (r : Request) {s : σ} (hs : sound s) :
    let first := (r.answer clusters).run.run handler s
    let again := (r.answer clusters).run.run handler first.2
    again.1 = first.1 ∧ view again.2 = view first.2 ∧ (view first.2).names = (view s).names ∧
    ∀ q answer, r = .create q → first.1 = .ok answer →
      ∃ volume place, answer = .created volume ∧ r.place? clusters = some place ∧
        ((view first.2).quotas place).isSome = true ∧
        (∀ other, other ≠ place → (view first.2).quotas other = (view s).quotas other) ∧
        ∀ later secrets admin, sound later → Credentials.select .admin secrets = .ok admin →
          (view later).names.isReserved volume.volumeId = false →
          let last := ((Request.delete ⟨volume.volumeId, secrets⟩).answer clusters).run.run
            handler later
          last.1 = .ok .deleted ∧
            view last.2 = ⟨Function.update (view later).quotas place none, (view later).names⟩ := by
  intro first again
  have repeats := r.answer_repeats host (view s).names clusters
  obtain ⟨same, unchanged, free⟩ := repeats.run behaves hs
  refine ⟨same, unchanged, free, ?_⟩
  rintro q answer rfl succeeded
  obtain ⟨_, rfl, staged, user, v, made, rfl, left⟩ :=
    create_run behaves clusters q hs answer succeeded
  have known := (Volume.known_of_ofRequest made).1
  refine ⟨_, place v, rfl, Request.place?_eq (Volume.inPool_of_ofRequest made) known, ?_, ?_, ?_⟩
  · rw [left]
    exact Option.isSome_of_eq_some provided_self
  · intro other different
    rw [left]
    exact provided_of_ne different
  · intro later secrets admin hlater selected free
    -- The handle gives no size, but that is nothing to its place.
    have removed := delete_run behaves clusters (Volume.ofHandle_of_ofRequest made none)
      selected staged free hlater
    exact removed

end Runs

/-! A volume is created where there is another one, and deleted with its handle. -/

def otherPlace : Place := ⟨"http://fcfs/fastcfs/auth/client.conf", "csi-vol-pvc-0"⟩

def besideOther : View := ⟨Function.update (fun _ => none) otherPlace (some 5), .empty⟩

theorem requests_repeat_life_cycle :
    let handle := "0001-1-0005-admin-000d-csi-vol-pvc-1"
    let created := ((creationOf 1).answer oneCluster).run.run Engine.quiet.keeper besideOther
    let again := ((creationOf 1).answer oneCluster).run.run Engine.quiet.keeper created.2
    let deleted := ((Request.delete ⟨handle, adminSecrets⟩).answer oneCluster).run.run
      Engine.quiet.keeper created.2
    created.1 = .ok (.created ⟨1073741824, handle, [("clusterID", "1")], false, []⟩) ∧
    again.1 = created.1 ∧ again.2 = created.2 ∧
    (created.2.quotas onlyPlace).isSome = true ∧ created.2.quotas otherPlace = some 5 ∧
    deleted.1 = .ok .deleted ∧ deleted.2.quotas onlyPlace = none ∧
    deleted.2.quotas otherPlace = some 5 := by
  have cycle := requests_repeat Engine.quiet.keeper_behaves oneCluster (creationOf 1)
    (s := besideOther) trivial
  have home : (creationOf 1).place? oneCluster = some onlyPlace := by decide +kernel
  have elsewhere : otherPlace ≠ onlyPlace := by decide
  generalize hcreated : ((creationOf 1).answer oneCluster).run.run Engine.quiet.keeper besideOther =
    created at cycle ⊢
  intro handle _ again deleted
  have made : created.1 = .ok (.created ⟨1073741824, handle, [("clusterID", "1")], false, []⟩) := by
    rw [← toOption_eq_some_iff, ← hcreated]
    decide +kernel
  have free : created.2.names.isReserved handle = false := by
    rw [← hcreated]
    decide +kernel
  obtain ⟨same, unchanged, -, life⟩ := cycle
  obtain ⟨volume, place, answer, known, there, others, deletes⟩ := life _ _ rfl made
  cases answer
  obtain rfl : onlyPlace = place := Option.some.inj (home.symm.trans known)
  obtain ⟨ended, left⟩ := deletes created.2 adminSecrets ("admin", "s3cr3t") trivial rfl free
  have kept : created.2.quotas otherPlace = some 5 := others otherPlace elsewhere
  have left' : deleted.2.quotas = Function.update created.2.quotas onlyPlace none :=
    congrArg View.quotas left
  refine ⟨made, same, unchanged, there, kept, ended, ?_, ?_⟩
  · rw [left', Function.update_self]
  · rw [left', Function.update_of_ne elsewhere, kept]

end Controller

end FuseVolumes
