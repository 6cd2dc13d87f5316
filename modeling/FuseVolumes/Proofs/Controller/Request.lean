import FuseVolumes.Controller.Service
import FuseVolumes.Proofs.Engine.Locking
import FuseVolumes.Proofs.Volume

/-!
# What requests are about

A request to create, delete or expand a volume is about one volume of a pool
(`Request.poolVolume?`), and all its commands are for that one (`Request.commands_about`). It runs
them under a name (`Request.name?`): the name that the volume is created for, or the volume's handle
as it is written. A handle is longer than the name it was made for, so two requests about one volume
go by one name if and only if they give the same handle or both give none
(`Request.name?_eq_iff`).
-/

namespace FuseVolumes

/-- A volume as a pool knows it. -/
structure PoolVolume where
  cluster : String
  name : String
  deriving DecidableEq, Repr

namespace Volume

def inPool (v : Volume) : PoolVolume := ⟨v.cluster, v.name⟩

theorem inPool_of_ofRequest {request owner : String} {parameters : Dict} {required : Int}
    {clusters : Clusters} {v : Volume}
    (h : ofRequest request parameters required owner clusters = .ok v) :
    (parameters.filled? clusterParameter).map (⟨·, poolName request⟩) = some v.inPool := by
  obtain ⟨cluster, id, url, filled, -, -, rfl⟩ := ofRequest_eq_ok_iff.1 h
  rw [filled]
  rfl

theorem inPool_of_ofHandle {id : String} {required : Option Int} {clusters : Clusters}
    {v : Volume} (h : ofHandle id required clusters = .ok v) :
    (Handle.decode id).toOption.map (fun h => ⟨h.cluster, h.volume⟩) = some v.inPool := by
  obtain ⟨handle, url, read, -, rfl⟩ := ofHandle_eq_ok_iff.1 h
  rw [read]
  rfl

end Volume

namespace Controller

open Program
open Engine (Work)
open Engine.Pool (Uses)

namespace Request

/-! ## Names and volumes -/

/-- The handle by which a request gives its volume. -/
def handle? : Request → Option String
  | .delete r => some r.volumeId
  | .expand r => some r.volumeId
  | .create _ | .validate _ | .capabilities | .other => none

/-- The name under which a request runs its commands. -/
def name? : Request → Option String
  | .create r => some r.name
  | r => r.handle?

/-- The volume that a request is about. -/
def poolVolume? : Request → Option PoolVolume
  | .create r => (r.parameters.filled? Volume.clusterParameter).map (⟨·, Volume.poolName r.name⟩)
  | r => r.handle?.bind fun id => (Handle.decode id).toOption.map fun h => ⟨h.cluster, h.volume⟩

/-- A request about a volume either gives the name to create it for or its handle. -/
theorem poolVolume?_cases {r : Request} {v : PoolVolume} (h : r.poolVolume? = some v) :
    (∃ name, r.handle? = none ∧ r.name? = some name ∧ Volume.poolName name = v.name) ∨
    ∃ id handle, r.handle? = some id ∧ r.name? = some id ∧ Handle.decode id = .ok handle ∧
      handle.volume = v.name := by
  have read {id : String}
      (h : (Handle.decode id).toOption.map (fun h => ⟨h.cluster, h.volume⟩) = some v) :
      ∃ handle, Handle.decode id = .ok handle ∧ handle.volume = v.name := by
    cases decoded : Handle.decode id with
    | error e =>
      rw [decoded] at h
      cases h
    | ok handle =>
      rw [decoded] at h
      cases h
      exact ⟨handle, rfl, rfl⟩
  cases r with
  | create r =>
    obtain ⟨cluster, -, rfl⟩ := Option.map_eq_some_iff.1 h
    exact .inl ⟨r.name, rfl, rfl, rfl⟩
  | delete r =>
    obtain ⟨handle, decoded, same⟩ := read h
    exact .inr ⟨r.volumeId, handle, rfl, rfl, decoded, same⟩
  | expand r =>
    obtain ⟨handle, decoded, same⟩ := read h
    exact .inr ⟨r.volumeId, handle, rfl, rfl, decoded, same⟩
  | validate r | capabilities | other => cases h

/-- A handle is longer than the name its volume was created for. -/
theorem ne_of_decode {id name : String} {handle : Handle} (decoded : Handle.decode id = .ok handle)
    (same : handle.volume = Volume.poolName name) : id ≠ name := by
  rintro rfl
  obtain ⟨p, q, r, layout⟩ := Handle.decode_eq_ok_iff.1 decoded
  have length := layout.encodedLength
  rw [Handle.encodedLength, Text.byteLength_toList handle.volume, same, Volume.poolName,
    String.utf8ByteSize_append] at length
  have : Handle.overhead = 17 := rfl
  omega

/-- Requests about one volume go by one name if and only if they give the same handle, or both
none. -/
theorem name?_eq_iff {a b : Request} {v : PoolVolume} (ha : a.poolVolume? = some v)
    (hb : b.poolVolume? = some v) : a.name? = b.name? ↔ a.handle? = b.handle? := by
  rcases poolVolume?_cases ha with
    ⟨name, none, named, same⟩ | ⟨id, handle, given, named, read, same⟩ <;>
  rcases poolVolume?_cases hb with
    ⟨name', none', named', same'⟩ | ⟨id', handle', given', named', read', same'⟩
  case inl.inl =>
    have one : name = name' := Volume.poolName_inj (same.trans same'.symm)
    rw [named, named', none, none', one]
    exact iff_of_true rfl rfl
  case inl.inr =>
    rw [named, named', none, given', Option.some.injEq]
    exact iff_of_false (ne_of_decode read' (same'.trans same.symm)).symm nofun
  case inr.inl =>
    rw [named, named', given, none', Option.some.injEq]
    exact iff_of_false (ne_of_decode read (same.trans same'.symm)) nofun
  case inr.inr => rw [named, named', given, given']

theorem name?_isSome {r : Request} {v : PoolVolume} (h : r.poolVolume? = some v) :
    r.name?.isSome := by
  rcases poolVolume?_cases h with ⟨name, -, named, -⟩ | ⟨id, handle, -, named, -⟩ <;>
    rw [named, Option.isSome_some]

end Request

/-! ## Services -/

namespace Service

/-- A volume is not created, or by the admin under the name that is asked for. -/
theorem create_cases (clusters : Clusters) (r : CreateRequest) :
    (∃ message, create clusters r = refuse message) ∨
    create clusters r = asAdmin r.secrets fun c =>
      exclusively r.name (createExclusively clusters r c) := by
  unfold create
  split
  · exact .inl ⟨_, rfl⟩
  · split
    · exact .inl ⟨_, rfl⟩
    · split
      · exact .inl ⟨_, rfl⟩
      · split
        · exact .inl ⟨_, rfl⟩
        · exact .inr rfl

theorem delete_cases (clusters : Clusters) (r : DeleteRequest) :
    (∃ message, delete clusters r = refuse message) ∨
    delete clusters r = asAdmin r.secrets fun c =>
      exclusively r.volumeId (deleteExclusively clusters r c) := by
  unfold delete
  split
  · exact .inl ⟨_, rfl⟩
  · exact .inr rfl

theorem expand_cases (clusters : Clusters) (r : ExpandRequest) :
    (∃ message, expand clusters r = refuse message) ∨
    ∃ required, (r.required = some required ∧ 0 < required) ∧
      expand clusters r = exclusively r.volumeId
        (asAdmin r.secrets (expandExclusively clusters r required)) := by
  unfold expand
  split
  · exact .inl ⟨_, rfl⟩
  · split
    · exact .inl ⟨_, rfl⟩
    next required given =>
      obtain ⟨given, positive⟩ := Option.filter_eq_some_iff.1 given
      exact .inr ⟨required, ⟨given, of_decide_eq_true positive⟩, rfl⟩

theorem validate_cases (r : ValidateRequest) :
    (∃ message, validate r = refuse message) ∨ ∃ answer, validate r = pure answer := by
  unfold validate
  split
  · exact .inl ⟨_, rfl⟩
  · split
    · exact .inl ⟨_, rfl⟩
    · split <;> exact .inr ⟨_, rfl⟩

/-! ## Commands -/

variable {about : Volume → Prop}

theorem info_uses (message : String) (fields : List (String × String)) :
    (liftM (info message fields) : Work Status Unit).run.Within (Uses about) :=
  ⟨trivial, fun _ _ => trivial⟩

theorem provide_uses {v : Volume} (h : about v) (c : Credentials) :
    (provide v c).run.Within (Uses about) := by
  refine within_run_bind (within_orFail (Engine.Pool.exists_uses h)) fun found => ?_
  split
  · exact within_run_bind (within_orFail (Engine.Pool.create_uses h)) fun _ => info_uses _ _
  · trivial

theorem create_uses (clusters : Clusters) (r : CreateRequest) (c : Credentials) :
    (createExclusively clusters r c).run.Within
      (Uses fun v => (Request.create r).poolVolume? = some v.inPool) := by
  unfold createExclusively
  split
  · trivial
  next v h =>
    exact within_run_bind (provide_uses (Volume.inPool_of_ofRequest h) _) fun _ => trivial

theorem delete_uses (clusters : Clusters) (r : DeleteRequest) (c : Credentials) :
    (deleteExclusively clusters r c).run.Within
      (Uses fun v => (Request.delete r).poolVolume? = some v.inPool) := by
  unfold deleteExclusively
  split
  · exact info_uses _ _
  · trivial
  next v h =>
    exact within_run_bind (within_orFail (Engine.Pool.delete_uses (Volume.inPool_of_ofHandle h)))
      fun _ => info_uses _ _

theorem expand_uses (clusters : Clusters) (r : ExpandRequest) (required : Int)
    (c : Credentials) : (expandExclusively clusters r required c).run.Within
      (Uses fun v => (Request.expand r).poolVolume? = some v.inPool) := by
  unfold expandExclusively
  split
  · trivial
  next v h =>
    refine within_run_bind
      (within_orFail (Engine.Pool.resize_uses (Volume.inPool_of_ofHandle h))) fun _ => ?_
    exact within_run_bind (info_uses _ _) fun _ => trivial

end Service

/-- Whatever a request asks for, its commands are for volumes of a kind. -/
def Commands (about : Volume → Prop) (call : Engine.Call) : Prop :=
  Engine.locking.IsWork call → Uses about call

section Commands

variable {about : Volume → Prop} {α : Type}

theorem commands_refuse (message : String) :
    (Service.refuse message : Work Status α).run.Within (Commands about) := trivial

theorem commands_exclusively {name : String} {work : Work Status α}
    (h : work.run.Within (Commands about)) :
    (Service.exclusively name work).run.Within (Commands about) :=
  Engine.reserving_within nofun nofun h

theorem commands_asAdmin {secrets : Dict} {work : Credentials → Work Status α}
    (h : ∀ c, (work c).run.Within (Commands about)) :
    (Service.asAdmin secrets work).run.Within (Commands about) :=
  Engine.withCredentials_within (fun _ _ => nofun) (fun _ => nofun) h

end Commands

/-- **Commands.** The commands of a request are for the volume that it is about. -/
theorem Request.commands_about (clusters : Clusters) (r : Request) :
    (r.answer clusters).run.Within (Commands fun v => r.poolVolume? = some v.inPool) := by
  have commands {α : Type} {work : Work Status α} {about : Volume → Prop}
      (h : work.run.Within (Uses about)) : work.run.Within (Commands about) :=
    h.mono fun _ uses _ => uses
  cases r with
  | create r =>
    refine within_run_bind ?_ fun _ => trivial
    rcases Service.create_cases clusters r with ⟨message, refused⟩ | granted
    · rw [refused]
      exact commands_refuse _
    · rw [granted]
      exact commands_asAdmin fun c =>
        commands_exclusively (commands (Service.create_uses clusters r c))
  | delete r =>
    refine within_run_bind ?_ fun _ => trivial
    rcases Service.delete_cases clusters r with ⟨message, refused⟩ | granted
    · rw [refused]
      exact commands_refuse _
    · rw [granted]
      exact commands_asAdmin fun c =>
        commands_exclusively (commands (Service.delete_uses clusters r c))
  | expand r =>
    refine within_run_bind ?_ fun _ => trivial
    rcases Service.expand_cases clusters r with ⟨message, refused⟩ | ⟨required, -, granted⟩
    · rw [refused]
      exact commands_refuse _
    · rw [granted]
      exact commands_exclusively (commands_asAdmin fun c =>
        commands (Service.expand_uses clusters r required c))
  | validate r =>
    refine within_run_bind ?_ fun _ => trivial
    rcases Service.validate_cases r with ⟨message, refused⟩ | ⟨answer, given⟩
    · rw [refused]
      exact commands_refuse _
    · rw [given]
      trivial
  | capabilities | other => trivial

end Controller

end FuseVolumes
