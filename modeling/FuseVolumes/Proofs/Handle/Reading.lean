import FuseVolumes.Proofs.Volume

/-!
# How a volume is read from its handle

A text is no handle, or it is one of a volume in some cluster, which is known or not (`Reading`).
This alone decides which volume a request by handle is about (`ofHandle_eq`), and whether the volume
that is mounted is the one of a handle or one that was set up by hand (`resolve_eq`). So a volume is
mounted as its own user if and only if its id is no handle (`preProvisioned_of_resolve`).
-/

namespace FuseVolumes.Volume

/-- What a text tells as a handle. -/
inductive Reading
  | foreign (cause : Handle.DecodeError)
  | unknown (handle : Handle)
  | known (handle : Handle) (url : String)

def Reading.of (clusters : Clusters) (id : String) : Reading :=
  match Handle.decode id with
  | .error cause => .foreign cause
  | .ok handle =>
    match clusters.url handle.cluster with
    | .error _ => .unknown handle
    | .ok url => .known handle url

variable {id : String} {context : Dict} {clusters : Clusters} {v : Volume}

theorem ofHandle_eq (id : String) (required : Option Int) (clusters : Clusters) :
    ofHandle id required clusters = match Reading.of clusters id with
      | .foreign cause => .error (.invalidVolumeId id cause)
      | .unknown handle => .error (.cluster (.unknownCluster handle.cluster))
      | .known handle url =>
        .ok ⟨id, handle.volume, handle.cluster, url, required.getD 0, false⟩ := by
  rw [ofHandle, Reading.of]
  cases Handle.decode id with
  | error cause => rfl
  | ok handle =>
    change (clusterUrl clusters handle.cluster >>= fun url => _) = _
    rw [clusterUrl]
    dsimp only
    rw [Clusters.url]
    cases clusters.urls.lookup handle.cluster <;> rfl

/-- Only what is no handle is looked up as a volume set up by hand. -/
theorem resolve_eq (id : String) (context : Dict) (clusters : Clusters) :
    resolve id context clusters = match Reading.of clusters id with
      | .foreign _ => ofStatic id context clusters
      | .unknown handle => .error (.cluster (.unknownCluster handle.cluster))
      | .known handle url => .ok ⟨id, handle.volume, handle.cluster, url, 0, false⟩ := by
  rw [resolve, ofHandle_eq]
  cases Reading.of clusters id <;> rfl

/-- A volume set up by hand goes by its id in the pool. -/
theorem name_of_ofStatic (h : ofStatic id context clusters = .ok v) :
    v.preProvisioned = true ∧ v.name = id := by
  obtain ⟨-, cluster, url, -, -, rfl⟩ := ofStatic_eq_ok_iff.1 h
  exact ⟨rfl, rfl⟩

/-- A volume is mounted as its own user if and only if its id is no handle. -/
theorem preProvisioned_of_resolve (h : resolve id context clusters = .ok v) :
    v.preProvisioned = !(Handle.decode id).isOk := by
  rw [resolve_eq, Reading.of] at h
  cases decoded : Handle.decode id with
  | error cause =>
    rw [decoded] at h
    exact (name_of_ofStatic h).1
  | ok handle =>
    rw [decoded] at h
    dsimp only at h
    cases found : clusters.url handle.cluster with
    | error e =>
      rw [found] at h
      cases h
    | ok url =>
      rw [found] at h
      cases h
      rfl

end FuseVolumes.Volume
