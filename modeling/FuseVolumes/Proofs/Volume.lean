import FuseVolumes.Proofs.Dict
import FuseVolumes.Proofs.Except
import FuseVolumes.Proofs.Handle.RoundTrip
import FuseVolumes.Volume

/-!
# Created volumes and their handles

A created volume is handed out by its handle alone. The handle reads back as the cluster, the owner
and the name that it was written for, so it is resolved to the volume that was created, whatever
context comes with it, and by no other request than one for that cluster, owner and name
(`created_resolves`).
-/

namespace FuseVolumes.Volume

variable {request request' owner owner' id : String} {parameters parameters' : Dict}
  {required required' : Int} {clusters clusters' : Clusters} {v v' : Volume}

/-! ## What volumes are made of -/

theorem ofRequest_eq_ok_iff :
    ofRequest request parameters required owner clusters = .ok v ↔
      ∃ cluster id url, parameters.filled? clusterParameter = some cluster ∧
        Handle.encode ⟨cluster, owner, poolName request⟩ = .ok id ∧
        clusters.url cluster = .ok url ∧
        v = ⟨id, poolName request, cluster, url, Capacity.roundUp required, false⟩ := by
  rw [ofRequest]
  cases parameters.filled? clusterParameter with
  | none => simp
  | some cluster =>
    simp only [bind_eq_ok_iff, mapError_eq_ok_iff, clusterUrl, Option.some.injEq, pure,
      Except.pure, Except.ok.injEq]
    constructor
    · rintro ⟨id, written, url, known, rfl⟩
      exact ⟨cluster, id, url, rfl, written, known, rfl⟩
    · rintro ⟨_, id, url, rfl, written, known, rfl⟩
      exact ⟨id, written, url, known, rfl⟩

theorem ofHandle_eq_ok_iff {size : Option Int} :
    ofHandle id size clusters = .ok v ↔
      ∃ handle url, Handle.decode id = .ok handle ∧ clusters.url handle.cluster = .ok url ∧
        v = ⟨id, handle.volume, handle.cluster, url, size.getD 0, false⟩ := by
  simp only [ofHandle, bind_eq_ok_iff, mapError_eq_ok_iff, clusterUrl, pure, Except.pure,
    Except.ok.injEq]
  constructor
  · rintro ⟨handle, read, url, known, rfl⟩
    exact ⟨handle, url, read, known, rfl⟩
  · rintro ⟨handle, url, read, known, rfl⟩
    exact ⟨handle, read, url, known, rfl⟩

theorem ofStatic_eq_ok_iff {context : Dict} :
    ofStatic id context clusters = .ok v ↔
      isStatic context = .ok true ∧ ∃ cluster url,
        context.filled? clusterParameter = some cluster ∧ clusters.url cluster = .ok url ∧
        v = ⟨id, id, cluster, url, 0, true⟩ := by
  simp only [ofStatic, bind_eq_ok_iff]
  constructor
  · rintro ⟨static, told, made⟩
    cases static with
    | false => cases made
    | true =>
      refine ⟨told, ?_⟩
      cases filled : context.filled? clusterParameter with
      | none =>
        rw [filled] at made
        cases made
      | some cluster =>
        rw [filled] at made
        obtain ⟨url, known, made⟩ := bind_eq_ok_iff.1 made
        cases made
        exact ⟨cluster, url, rfl, mapError_eq_ok_iff.1 known, rfl⟩
  · rintro ⟨told, cluster, url, filled, known, rfl⟩
    refine ⟨true, told, ?_⟩
    rw [filled]
    exact bind_eq_ok_iff.2 ⟨url, mapError_eq_ok_iff.2 known, rfl⟩

/-- A volume that is asked for is in a known cluster and of a rounded size. -/
theorem known_of_ofRequest (made : ofRequest request parameters required owner clusters = .ok v) :
    clusters.url v.cluster = .ok v.baseUrl ∧ v.capacity = Capacity.roundUp required := by
  obtain ⟨cluster, id, url, -, -, known, rfl⟩ := ofRequest_eq_ok_iff.1 made
  exact ⟨known, rfl⟩

/-- A volume that is given is in a known cluster and of the size that is asked for. -/
theorem known_of_ofHandle {size : Option Int} (made : ofHandle id size clusters = .ok v) :
    clusters.url v.cluster = .ok v.baseUrl ∧ v.capacity = size.getD 0 := by
  obtain ⟨handle, url, -, known, rfl⟩ := ofHandle_eq_ok_iff.1 made
  exact ⟨known, rfl⟩

theorem poolName_inj (h : poolName request = poolName request') : request = request' := by
  simpa [poolName, ← String.toList_inj] using h

/-! ## From requests to handles and back -/

/-- The handle that a volume is created with is for the same volume. -/
theorem ofHandle_of_ofRequest (made : ofRequest request parameters required owner clusters = .ok v)
    (size : Option Int) : ofHandle v.id size clusters = .ok { v with capacity := size.getD 0 } := by
  obtain ⟨cluster, id, url, -, written, known, rfl⟩ := ofRequest_eq_ok_iff.1 made
  obtain ⟨short, rfl⟩ := Handle.encode_eq_ok_iff.1 written
  exact ofHandle_eq_ok_iff.2 ⟨_, url, Handle.decode_write short, known, rfl⟩

/-- A handle whose volume is known is not looked up as a volume set up by hand. -/
theorem resolve_of_ofHandle (h : ofHandle id none clusters = .ok v) (context : Dict) :
    resolve id context clusters = .ok v := by
  rw [resolve, h]

/-- Volumes are created with one handle only for one owner under one name in one cluster. -/
theorem id_eq_iff (made : ofRequest request parameters required owner clusters = .ok v)
    (made' : ofRequest request' parameters' required' owner' clusters' = .ok v') :
    v.id = v'.id ↔ v.cluster = v'.cluster ∧ owner = owner' ∧ request = request' := by
  obtain ⟨cluster, id, url, -, written, -, rfl⟩ := ofRequest_eq_ok_iff.1 made
  obtain ⟨cluster', id', url', -, written', -, rfl⟩ := ofRequest_eq_ok_iff.1 made'
  constructor
  · rintro rfl
    have same := Handle.encode_inj written written'
    injection same with cluster owner name
    exact ⟨cluster, owner, poolName_inj name⟩
  · rintro ⟨rfl, rfl, rfl⟩
    exact Except.ok.inj (written.symm.trans written')

/-- The cluster of a created volume is the one that the request names. -/
theorem cluster_of_ofRequest
    (made : ofRequest request parameters required owner clusters = .ok v) :
    parameters.get? clusterParameter = some v.cluster := by
  obtain ⟨cluster, id, url, filled, -, -, rfl⟩ := ofRequest_eq_ok_iff.1 made
  exact Dict.get?_of_filled? filled

/-- **Handed out and resolved.** The handle of a created volume gives that volume back: as it was
with the size it was created with, and without a size when it is about to be mounted, whatever its
context says. Two volumes are created with one handle exactly when they were asked for in one
cluster, by one owner and under one name. -/
theorem created_resolves (made : ofRequest request parameters required owner clusters = .ok v) :
    ofHandle v.id (some v.capacity) clusters = .ok v ∧
    (∀ context, resolve v.id context clusters = .ok { v with capacity := 0 }) ∧
    ∀ request' parameters' required' owner' clusters' v',
      ofRequest request' parameters' required' owner' clusters' = .ok v' →
      (v.id = v'.id ↔
        parameters.get? clusterParameter = parameters'.get? clusterParameter ∧
        owner = owner' ∧ request = request') := by
  refine ⟨ofHandle_of_ofRequest made _, fun context => ?_, ?_⟩
  · exact resolve_of_ofHandle (ofHandle_of_ofRequest made none) context
  · intro request' parameters' required' owner' clusters' v' made'
    rw [cluster_of_ofRequest made, cluster_of_ofRequest made', Option.some.injEq]
    exact id_eq_iff made made'

/-- The name looks like fields of a handle, the context like that of a volume set up by hand in
another cluster; another owner is given another handle. -/
theorem created_resolves_despite_context :
    let clusters : Clusters := ⟨[("1", "http://fcfs"), ("2", "http://two")]⟩
    let v : Volume := ⟨"0001-1-0006-admin--000f-csi-vol-0005-é", "csi-vol-0005-é", "1",
      "http://fcfs", 1073741824, false⟩
    let other : Volume := ⟨"0001-1-0005-admin-000f-csi-vol-0005-é", "csi-vol-0005-é", "1",
      "http://fcfs", 1073741824, false⟩
    ofRequest "0005-é" [("clusterID", "1")] 1 "admin-" clusters = .ok v ∧
    ofHandle v.id (some v.capacity) clusters = .ok v ∧
    resolve v.id [("static", "true"), ("clusterID", "2")] clusters =
      .ok { v with capacity := 0 } ∧
    ofRequest "0005-é" [("clusterID", "1")] 1 "admin" clusters = .ok other ∧ v.id ≠ other.id := by
  intro clusters v other
  have made : ofRequest "0005-é" [("clusterID", "1")] 1 "admin-" clusters = .ok v :=
    toOption_eq_some_iff.1 (by decide +kernel)
  have made' : ofRequest "0005-é" [("clusterID", "1")] 1 "admin" clusters = .ok other :=
    toOption_eq_some_iff.1 (by decide +kernel)
  obtain ⟨whole, mounted, distinct⟩ := created_resolves made
  refine ⟨made, whole, mounted _, made', fun same => ?_⟩
  have owner := ((distinct _ _ _ _ _ _ made').1 same).2.1
  exact absurd owner (by decide)

end FuseVolumes.Volume
