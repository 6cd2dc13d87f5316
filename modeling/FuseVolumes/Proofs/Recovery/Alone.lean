import FuseVolumes.Proofs.Orchestrator.Attached
import FuseVolumes.Proofs.Recovery.Pass
import FuseVolumes.Proofs.Recovery.Planned

/-!
Stores in which a volume is the only one attached, and a pod the only pod. What a pass prepares for
the volume there is what it prepares for it among others (`prepare_onlyVolume`, `prepare_onlyPod`).
-/

namespace FuseVolumes.Orchestrator

/-- The session with no volume attached but one. -/
def Session.onlyVolume (s : Session) (v : PersistentVolume) : Session :=
  { s with store :=
    { s.store with attachments := s.store.attachments.filter fun a => a.any (·.volume == v.name) } }

/-- The session with no pod but one. -/
def Session.onlyPod (s : Session) (node : String) (pod : Pod) : Session :=
  { s with store := { s.store with pods := [(node, some pod)] } }

theorem mem_attachedNames_filter {attachments : List Attachment} {node driver name : String}
    {volume : Option String} :
    name ∈ Metadata.attachedNames (attachments.filter (·.volume == volume)) node driver ↔
      name ∈ Metadata.attachedNames attachments node driver ∧ some name = volume := by
  rw [mem_attachedNames_iff, mem_attachedNames_iff]
  constructor
  · rintro ⟨a, mem, done, named⟩
    obtain ⟨mem, about⟩ := List.mem_filter.1 mem
    exact ⟨⟨a, mem, done, named⟩, named.symm.trans (eq_of_beq about)⟩
  · rintro ⟨⟨a, mem, done, named⟩, rfl⟩
    exact ⟨a, List.mem_filter.2 ⟨mem, beq_iff_eq.2 named⟩, done, named⟩

theorem isAttached_filter (attachments : List Attachment) (node driver : String)
    (volume : Option String) (v : PersistentVolume) :
    Metadata.isAttached
        (Metadata.attachedNames (attachments.filter (·.volume == volume)) node driver) driver v =
      (Metadata.isAttached (Metadata.attachedNames attachments node driver) driver v &&
        v.name == volume) := by
  rw [Bool.eq_iff_iff, Bool.and_eq_true, beq_iff_eq, isAttached_iff, isAttached_iff, and_assoc]
  refine and_congr_right' ?_
  simp only [mem_attachedNames_filter]
  constructor
  · rintro ⟨name, named, mem, about⟩
    exact ⟨⟨name, named, mem⟩, (Option.mem_def.1 named).trans about⟩
  · rintro ⟨⟨name, named, mem⟩, about⟩
    exact ⟨name, named, mem, (Option.mem_def.1 named).symm.trans about⟩

theorem filter_eq_singleton {volumes : List PersistentVolume}
    (distinct : (volumes.filterMap (·.name)).Nodup) {v : PersistentVolume} (h : v ∈ volumes)
    {name : String} (hname : v.name = some name) :
    volumes.filter (·.name == v.name) = [v] := by
  induction volumes with
  | nil => cases h
  | cons u rest ih =>
    by_cases hu : u.name = some name
    · rw [List.filterMap_cons_some hu] at distinct
      obtain ⟨absent, -⟩ := List.nodup_cons.1 distinct
      have none (w : PersistentVolume) (hw : w ∈ rest) : w.name ≠ some name := fun hwname =>
        absent (List.mem_filterMap.2 ⟨w, hw, hwname⟩)
      rcases List.mem_cons.1 h with rfl | h
      · rw [List.filter_cons, if_pos (beq_self_eq_true v.name), List.filter_eq_nil_iff.2]
        intro w hw
        rw [hname, beq_iff_eq]
        exact none w hw
      · exact absurd hname (none v h)
    · have differ : ¬ (u.name == v.name) = true := by rwa [hname, beq_iff_eq]
      rw [List.filter_cons, if_neg differ]
      refine ih ?_ ?_
      · exact ((List.sublist_cons_self u rest).filterMap (·.name)).nodup distinct
      · refine (List.mem_cons.1 h).resolve_left ?_
        rintro rfl
        exact hu hname

theorem attachedVolumes_onlyVolume {s : Session} {node driver : String}
    {volumes : List PersistentVolume} (distinct : (volumes.filterMap (·.name)).Nodup)
    (h : (s.run (Metadata.attachedVolumes node driver)).1 = .ok volumes) {v : PersistentVolume}
    (hv : v ∈ volumes) :
    ((s.onlyVolume v).run (Metadata.attachedVolumes node driver)).1 = .ok [v] := by
  obtain ⟨attachments, hattachments, h⟩ := attachedVolumes_eq_ok_iff.1 h
  obtain ⟨allowed, listed⟩ := list_eq_ok_iff.1 hattachments
  rcases h with ⟨-, rfl⟩ | ⟨-, found, hfound, rfl⟩
  · cases hv
  · obtain ⟨-, name, hname, named⟩ := isAttached_iff.1 (List.mem_filter.1 hv).2
    refine attachedVolumes_eq_ok_iff.2
      ⟨attachments.filter (·.volume == v.name), ?_, .inr ⟨?_, found, hfound, ?_⟩⟩
    · refine list_eq_ok_iff.2 ⟨allowed, ?_⟩
      change s.store.attachments.filter _ = _
      rw [listed, List.filter_map]
      rfl
    · exact List.ne_nil_of_mem (mem_attachedNames_filter.2 ⟨named, hname.symm⟩)
    · rw [← filter_eq_singleton distinct hv hname, List.filter_filter]
      refine List.filter_congr fun u _ => ?_
      rw [isAttached_filter, Bool.and_comm]

end FuseVolumes.Orchestrator

namespace FuseVolumes.Recovery

open Program Orchestrator

/-- One volume is prepared from what is told of its class, its claim and its secret. -/
theorem prepare_singleton {scope : Scope} {s t : Session} (alike : Alike t s) {v : PersistentVolume}
    (hvolumes : (t.run (Metadata.attachedVolumes scope.node scope.driver)).1 = .ok [v])
    {classes : List StorageClass}
    (hclasses : (s.run (Metadata.storageClasses scope.driver)).1 = .ok classes)
    {pods : List Pod} (hpods : (t.run (Metadata.podsOnNode scope.node)).1 = .ok pods) :
    (t.run (prepare scope)).1 = .ok [preparedFor scope s v (users pods v)] := by
  have told : (t.run (Metadata.storageClasses scope.driver)).1 = .ok classes :=
    (run_alike (storageClasses_within trivial scope.driver) alike).trans hclasses
  refine prepare_eq_ok_iff.2
    ⟨[v], hvolumes, .inr ⟨List.cons_ne_nil _ _, classes, pods, told, hpods, ?_⟩⟩
  rw [planAll_run scope _ _ (.nil t), preparedFor, ← classesOf_of_run hclasses,
    ← planned_congr alike]
  rfl

variable {scope : Scope} {session : Session} {prepared : List Prepared} {v : PersistentVolume}

/-- A volume that is attached by itself is planned for as it is among others. -/
theorem prepare_onlyVolume (h : (session.run (prepare scope)).1 = .ok prepared)
    (distinct : ((scope.volumes session).filterMap (·.name)).Nodup)
    (hv : v ∈ scope.volumes session) :
    ((session.onlyVolume v).run (prepare scope)).1 =
      .ok [preparedFor scope session v (users (scope.pods session) v)] := by
  obtain ⟨volumes, hvolumes, h⟩ := prepare_eq_ok_iff.1 h
  obtain rfl : volumes = scope.volumes session := attached_of_run hvolumes
  rcases h with ⟨none, -⟩ | ⟨-, classes, pods, hclasses, hpods, -⟩
  · rw [none] at hv
    cases hv
  · obtain rfl : pods = scope.pods session := podsOn_of_run hpods
    have alike : Alike (session.onlyVolume v) session := ⟨rfl, rfl, rfl, rfl⟩
    exact prepare_singleton alike (attachedVolumes_onlyVolume distinct hvolumes hv)
      hclasses (podsOnNode_eq_ok_iff.2 (podsOnNode_eq_ok_iff.1 hpods))

/-- So it is for a pod that uses it by itself. -/
theorem prepare_onlyPod (h : (session.run (prepare scope)).1 = .ok prepared)
    (distinct : ((scope.volumes session).filterMap (·.name)).Nodup)
    (hv : v ∈ scope.volumes session) (pod : Pod) :
    (((session.onlyVolume v).onlyPod scope.node pod).run (prepare scope)).1 =
      .ok [preparedFor scope session v (users [pod] v)] := by
  obtain ⟨volumes, hvolumes, h⟩ := prepare_eq_ok_iff.1 h
  obtain rfl : volumes = scope.volumes session := attached_of_run hvolumes
  rcases h with ⟨none, -⟩ | ⟨-, classes, pods, hclasses, hpods, -⟩
  · rw [none] at hv
    cases hv
  · obtain ⟨allowed, -⟩ := list_eq_ok_iff.1 (podsOnNode_eq_ok_iff.1 hpods)
    have found := attachedVolumes_eq_ok_iff.1 (attachedVolumes_onlyVolume distinct hvolumes hv)
    have alike : Alike ((session.onlyVolume v).onlyPod scope.node pod) session :=
      ⟨rfl, rfl, rfl, rfl⟩
    refine prepare_singleton alike ?_ hclasses ?_
    · exact attachedVolumes_eq_ok_iff.2 found
    · refine podsOnNode_eq_ok_iff.2 (list_eq_ok_iff.2 ⟨allowed, ?_⟩)
      simp [Session.onlyPod]

end FuseVolumes.Recovery
