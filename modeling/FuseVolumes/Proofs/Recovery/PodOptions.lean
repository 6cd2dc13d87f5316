import FuseVolumes.Proofs.Node.Publish
import FuseVolumes.Proofs.Recovery.Kubelet
import FuseVolumes.Proofs.Recovery.Planning
import FuseVolumes.Proofs.Recovery.Task

/-!
# Options of restored pods

Recovery binds the global mount of a volume on the mount of a pod (`mendPod_asks_bindMount_iff`)
with options of its own making. They are those that the pod was published with and once more
read-only if both the pod and the flags of the volume say so (`podOptions_eq`). So a pod is restored
as it was published unless both do (`restored_as_published_iff`).
-/

namespace FuseVolumes.Recovery

open Program Node Orchestrator

variable {root source : String} {options : List String} {plan : Plan} {pod : PodMount}

/-! ## The options -/

theorem ro_mem_unionOptions {flags : List String} :
    "ro" ∈ Mount.unionOptions Mount.bindOptions flags ↔ "ro" ∈ flags := by
  rw [Mount.mem_unionOptions, or_iff_right (by decide)]

/-- Recovery does not look whether the flags say read-only before it does. -/
theorem podOptions_eq (plan : Plan) (pod : PodMount) :
    podOptions plan pod = Service.publishOptions plan.mountOptions pod.readOnly ++
      if pod.readOnly = true ∧ "ro" ∈ plan.mountOptions then ["ro"] else [] := by
  rw [podOptions, Service.publishOptions]
  cases pod.readOnly with
  | false => simp
  | true =>
    by_cases said : "ro" ∈ plan.mountOptions
    · have there := ro_mem_unionOptions.2 said
      simp [said, there]
    · have new := mt ro_mem_unionOptions.1 said
      simp [said, new]

theorem podOptions_eq_publishOptions_iff (plan : Plan) (pod : PodMount) :
    podOptions plan pod = Service.publishOptions plan.mountOptions pod.readOnly ↔
      ¬ (pod.readOnly = true ∧ "ro" ∈ plan.mountOptions) := by
  rw [podOptions_eq, List.append_right_eq_self]
  split
  next twice => exact iff_of_false (List.cons_ne_nil _ _) (not_not_intro twice)
  next once => exact iff_of_true rfl once

theorem nodup_podOptions_iff (plan : Plan) (pod : PodMount) :
    (podOptions plan pod).Nodup ↔ ¬ (pod.readOnly = true ∧ "ro" ∈ plan.mountOptions) := by
  have distinct := Service.nodup_publishOptions plan.mountOptions pod.readOnly
  rw [podOptions_eq]
  split
  next twice =>
    refine iff_of_false (fun h => ?_) (not_not_intro twice)
    have there : "ro" ∈ Service.publishOptions plan.mountOptions pod.readOnly :=
      Service.mem_publishOptions.2 (.inr (.inl twice.2))
    exact (List.nodup_append.1 h).2.2 "ro" there "ro" (List.mem_singleton_self _) rfl
  next once =>
    rw [List.append_nil]
    exact iff_of_true distinct once

/-! ## The bind mount -/

theorem bindPod_asks_bindMount_iff {target : String} :
    (bindPod root plan pod).run.Asks (.bindMount source target options) ↔
      source = Kubelet.globalMount root plan.persistentVolume ∧
        target = Kubelet.podVolume root pod.uid plan.persistentVolume ∧
        options = podOptions plan pod := by
  have told (event : Event) : ¬ (liftM (tell event) : Mending Unit).run.Asks
      (.bindMount source target options) := by
    rw [asks_liftM_iff]
    exact fun h => nomatch asks_request_iff.1 h
  rw [bindPod, asks_run_bind_iff_of_last fun _ => told _, bindMount, asks_orFail_iff]
  exact asks_request_iff.trans (by simp [eq_comm])

theorem restore_asks_bindMount_iff {path target : String} {mount : Mending Unit} :
    (restore path mount).run.Asks (.bindMount source target options) ↔
      mount.run.Asks (.bindMount source target options) := by
  have ready : ¬ (MountPoint.ensure path).run.Asks (.bindMount source target options) :=
    (MountPoint.ensure_bindless path).not_asks id
  rw [restore_run, asks_bind_iff, or_iff_right ready]
  constructor
  · rintro ⟨found, -, h⟩
    match found with
    | .ok true => exact absurd h (not_asks_done _ _)
    | .ok false => exact h
    | .error e => exact absurd h (not_asks_done _ _)
  · intro h
    exact ⟨.ok false, MountPoint.ensure_answers_false path, h⟩

/-- What is below a pod's mount is bound elsewhere. -/
theorem mendSubMounts_not_asks_bindMount (root target uid volume source : String)
    (options : List String) (pod : PodMount) (subs : List SubMount) :
    ¬ (mendSubMounts root target pod subs).Asks
      (.bindMount source (Kubelet.podVolume root uid volume) options) := by
  have elsewhere : (mendSubMounts root target pod subs).Within fun call : Node.Call =>
      call ≠ .bindMount source (Kubelet.podVolume root uid volume) options := by
    refine (obeys_compositional fun event => nofun).mendSubMounts target subs fun r hr => ?_
    obtain ⟨sub, -, rfl⟩ := List.mem_map.1 hr
    refine (restore_within (bindSub_mountsOn root target pod sub)).mono ?_
    rintro call covered rfl
    exact Kubelet.podVolume_ne_subPath _ _ _ _ _ _ _ covered
  exact elsewhere.not_asks fun h => h rfl

/-- On the mount of a pod recovery binds the global mount of the volume, with these options. -/
theorem mendPod_asks_bindMount_iff :
    (mendPod root plan pod).run.Asks
        (.bindMount source (Kubelet.podVolume root pod.uid plan.persistentVolume) options) ↔
      source = Kubelet.globalMount root plan.persistentVolume ∧ options = podOptions plan pod := by
  have below (target : String) := mendSubMounts_not_asks_bindMount root target pod.uid
    plan.persistentVolume source options pod pod.subMounts
  rw [mendPod_eq, asks_run_bind_iff_of_last fun _ => mt asks_liftM_iff.1 (below _),
    restore_asks_bindMount_iff, bindPod_asks_bindMount_iff]
  simp only [true_and]

/-! ## Published and restored -/

/-- **As published.** Publishing a volume to a pod binds with one list of options, and recovering
the pod's mount with one, whatever else happens. What is published has every option that is asked
for and no other, and says nothing twice. The two lists are the same, and what is restored says
nothing twice either, unless both the request and the flags of the volume say read-only. -/
theorem restored_as_published_iff (clusters : Clusters) (info : Info) (root : String)
    (q : PublishRequest) (v : PersistentVolume) (m : Volume × Dict) (pods : List PodMount)
    (pod : PodMount) (valid : (Request.publish q).Valid)
    (flags : v.mountOptions = Service.mountFlags q.capability)
    (readOnly : pod.readOnly = q.readOnly) :
    ∃ published restored : List String,
      (∀ source target options,
        ((Request.publish q).answer clusters info).run.Asks (.bindMount source target options) ↔
          source = q.stagingPath ∧ target = q.targetPath ∧ options = published) ∧
      (∀ source options,
        (mendPod root (planFor v pods m) pod).run.Asks
          (.bindMount source (Kubelet.podVolume root pod.uid (v.name.getD "")) options) ↔
          source = Kubelet.globalMount root (v.name.getD "") ∧ options = restored) ∧
      (∀ option, option ∈ published ↔ option ∈ Mount.bindOptions ∨
        option ∈ Service.mountFlags q.capability ∨ q.readOnly = true ∧ option = "ro") ∧
      published.Nodup ∧
      (published = restored ∧ restored.Nodup ↔
        ¬ (q.readOnly = true ∧ "ro" ∈ Service.mountFlags q.capability)) := by
  refine ⟨Service.publishOptions (Service.mountFlags q.capability) q.readOnly,
    podOptions (planFor v pods m) pod, fun source target options => ?_,
    fun source options => mendPod_asks_bindMount_iff, fun _ => Service.mem_publishOptions,
    Service.nodup_publishOptions _ _, ?_⟩
  · rw [publish_asks_bindMount_iff, and_iff_right valid]
  · have planned : (planFor v pods m).mountOptions = Service.mountFlags q.capability := flags
    have same := podOptions_eq_publishOptions_iff (planFor v pods m) pod
    have distinct := nodup_podOptions_iff (planFor v pods m) pod
    rw [planned, readOnly] at same distinct
    rw [eq_comm, same, distinct, and_self]

/-- Flags that are repeated, or are options of every bind mount, do no harm. -/
theorem restored_as_published_despite_repeats :
    ∃ options : List String,
      ((Request.publish ⟨"data", "/staging", "/target",
          some ⟨some (.mount "" ["noatime", "bind", "noatime"]), some 1⟩, true⟩).answer
        .empty ⟨"n", 0, []⟩).run.Asks (.bindMount "/staging" "/target" options) ∧
      (mendPod "/kubelet" (planFor
          ⟨some "pv", none, none, none, ["noatime", "bind", "noatime"]⟩ []
          (⟨"data", "data", "1", "http://fcfs", 0, false⟩, [])) ⟨"uid", "v", true, []⟩).run.Asks
        (.bindMount (Kubelet.globalMount "/kubelet" "pv") (Kubelet.podVolume "/kubelet" "uid" "pv")
          options) ∧
      options.Nodup := by
  obtain ⟨published, restored, asked, mended, -, -, whole⟩ :=
    restored_as_published_iff .empty ⟨"n", 0, []⟩ "/kubelet"
      ⟨"data", "/staging", "/target",
        some ⟨some (.mount "" ["noatime", "bind", "noatime"]), some 1⟩, true⟩
      ⟨some "pv", none, none, none, ["noatime", "bind", "noatime"]⟩
      (⟨"data", "data", "1", "http://fcfs", 0, false⟩, []) [] ⟨"uid", "v", true, []⟩
      ⟨by decide, by decide, by decide, by decide⟩ rfl rfl
  obtain ⟨rfl, distinct⟩ := whole.2 (by decide)
  exact ⟨published, (asked _ _ _).2 ⟨rfl, rfl, rfl⟩, (mended _ _).2 ⟨rfl, rfl⟩, distinct⟩

/-- **Twice read-only.** A pod that says read-only, of a volume whose flags do, is published with
one such option and restored with two. -/
theorem restored_read_only_twice :
    podOptions (planFor ⟨some "pv", none, none, none, ["ro"]⟩ []
        (⟨"data", "data", "1", "http://fcfs", 0, false⟩, [])) ⟨"uid", "v", true, []⟩ =
      ["bind", "_netdev", "ro", "ro"] ∧
    ¬ ∀ (clusters : Clusters) (info : Info) (q : PublishRequest) (v : PersistentVolume)
      (m : Volume × Dict) (pods : List PodMount) (pod : PodMount) (root : String)
      (published restored : List String),
      (Request.publish q).Valid → v.mountOptions = Service.mountFlags q.capability →
      pod.readOnly = q.readOnly →
      ((Request.publish q).answer clusters info).run.Asks
        (.bindMount q.stagingPath q.targetPath published) →
      (mendPod root (planFor v pods m) pod).run.Asks
        (.bindMount (Kubelet.globalMount root (v.name.getD ""))
          (Kubelet.podVolume root pod.uid (v.name.getD "")) restored) →
      published = restored ∧ published.Nodup := by
  refine ⟨by decide, fun claim => ?_⟩
  have valid : (Request.publish ⟨"data", "/staging", "/target",
      some ⟨some (.mount "" ["ro"]), some 1⟩, true⟩).Valid :=
    ⟨by decide, by decide, by decide, by decide⟩
  have both := claim .empty ⟨"n", 0, []⟩
    ⟨"data", "/staging", "/target", some ⟨some (.mount "" ["ro"]), some 1⟩, true⟩
    ⟨some "pv", none, none, none, ["ro"]⟩ (⟨"data", "data", "1", "http://fcfs", 0, false⟩, []) []
    ⟨"uid", "v", true, []⟩ "/kubelet" ["bind", "_netdev", "ro"] ["bind", "_netdev", "ro", "ro"]
    valid rfl rfl (publish_asks_bindMount_iff.2 ⟨valid, rfl, rfl, by decide⟩)
    (mendPod_asks_bindMount_iff.2 ⟨rfl, by decide⟩)
  exact absurd both.1 (by decide)

end FuseVolumes.Recovery
