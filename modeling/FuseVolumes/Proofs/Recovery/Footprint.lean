import FuseVolumes.Proofs.Recovery.Kubelet
import FuseVolumes.Proofs.Recovery.Task

/-!
What of a node the task of a volume is about: the paths of its mounts, and its name. The pods of a
volume are mended one after the other, each at paths of its own, so a pod's mounts end as if the
volume had no other pod (`recover_agree`).
-/

namespace FuseVolumes.Recovery

open Program Node Node.Machine

variable {root : String} {plan : Plan} {pod : PodMount} {fuse : FuseMounter}

/-! ## Tasks within their footprints -/

theorem covers_ofPaths {paths : List String} {path : String} (h : path ∈ paths) {call : Node.Call}
    (hcall : (Footprint.one path).Covers call) : (Footprint.ofPaths paths).Covers call := by
  refine Footprint.Covers.mono (f := .one path) (g := .ofPaths paths) ?_ (fun _ h => h) hcall
  rintro _ rfl
  exact h

theorem mendPod_within (root : String) (plan : Plan) (pod : PodMount) :
    (mendPod root plan pod).run.Within
      (Footprint.ofPaths (podPaths root plan.persistentVolume pod)).Covers := by
  refine (obeys_compositional fun _ => trivial).mendPod fun r hr => ?_
  refine (restore_within (mountsOn_of_mem_podWorks hr)).mono fun call => covers_ofPaths ?_
  rw [← podWorks_paths]
  exact List.mem_map_of_mem hr

theorem mendPods_within (root : String) (plan : Plan) (pods : List PodMount) :
    (mendPods root plan pods).Within
      (Footprint.ofPaths (pods.flatMap (podPaths root plan.persistentVolume))).Covers := by
  refine (obeys_compositional fun _ => trivial).mendPods _ fun r hr => ?_
  obtain ⟨pod, hpod, hr⟩ := List.mem_flatMap.1 hr
  refine (restore_within (mountsOn_of_mem_podWorks hr)).mono fun call => covers_ofPaths ?_
  refine List.mem_flatMap.2 ⟨pod, hpod, ?_⟩
  rw [← podWorks_paths]
  exact List.mem_map_of_mem hr

/-- The mounts of a volume and its name. -/
def Plan.footprint (root : String) (plan : Plan) : Footprint :=
  ⟨(· ∈ plan.paths root), (· = plan.volume.id)⟩

theorem recoverReserved_covers (root : String) (plan : Plan) :
    (recoverReserved root plan).Within (plan.footprint root).Covers := by
  refine recoverReserved_within rfl fun path hpath call => Footprint.Covers.mono ?_ ?_
  · rintro _ rfl
    exact hpath
  · exact fun _ h => h.elim

theorem recover_covers (root : String) (plan : Plan) :
    (recover root plan).Within (plan.footprint root).Covers := by
  rw [recover_eq]
  refine ⟨rfl, fun taken _ => ?_⟩
  cases taken with
  | false => exact ⟨trivial, fun _ _ => trivial⟩
  | true => exact recoverReserved_covers root plan

/-! ## One pod among others -/

theorem mendPods_append (root : String) (plan : Plan) (before after : List PodMount) :
    mendPods root plan (before ++ after) =
      (mendPods root plan before).bind fun _ => mendPods root plan after := by
  induction before with
  | nil => rfl
  | cons pod before ih =>
    rw [List.cons_append, mendPods_cons, mendPods_cons, ih, Program.bind_assoc]

/-- The plan with no other pod. -/
def Plan.onlyFor (plan : Plan) (pod : PodMount) : Plan := { plan with pods := [pod] }

/-- Mending other pods makes no difference to what the footprint is about. -/
theorem mendPods_agree (hfuse : FailsByMount fuse) {f : Footprint} {before after : List PodMount}
    (own : ∀ path ∈ podPaths root plan.persistentVolume pod, f.paths path)
    (others : ∀ other ∈ before ++ after,
      f.Disjoint (Footprint.ofPaths (podPaths root plan.persistentVolume other))) (m : Machine) :
    Agree f ((mendPods root plan (before ++ pod :: after)).run (handle fuse) m).2
      ((mendPods root (plan.onlyFor pod) [pod]).run (handle fuse) m).2 := by
  have spared (pods : List PodMount) (h : ∀ other ∈ pods, other ∈ before ++ after) (m : Machine) :
      Agree f m ((mendPods root plan pods).run (handle fuse) m).2 := by
    refine run_spares (spares_handle hfuse ?_) (agree_equivalence f).refl
      (fun _ _ _ => (agree_equivalence f).trans) (mendPods_within root plan pods) m
    refine ⟨fun path hpath hother => ?_, fun _ _ h => h⟩
    obtain ⟨other, hmem, hother⟩ := List.mem_flatMap.1 hother
    exact (others other (h other hmem)).1 path hpath hother
  have within : (attempt (mendPod root plan pod) fun e =>
      (Event.error .recovery "Failed to recover pod mount").beside
        [("pod.uid", pod.uid), ("error", e.message)]).Within f.Covers := by
    refine (obeys_compositional fun _ => trivial).attempt ?_
    refine (mendPod_within root plan pod).mono fun call => Footprint.Covers.mono own ?_
    exact fun _ h => h.elim
  have before_same := spared before (fun _ h => List.mem_append_left _ h) m
  have pod_same := (run_agree (local_handle hfuse f) within before_same).2
  have after_same := spared after (fun _ h => List.mem_append_right _ h)
  rw [mendPods_append, run_bind, mendPods_cons, mendPods_cons, run_bind, run_bind]
  exact (agree_equivalence f).trans ((agree_equivalence f).symm (after_same _))
    ((agree_equivalence f).symm pod_same)

theorem Plan.onlyFor_paths (root : String) (plan : Plan) (pod : PodMount) :
    (plan.onlyFor pod).paths root = Kubelet.globalMount root plan.persistentVolume ::
      podPaths root plan.persistentVolume pod := by
  rw [Plan.paths, Plan.onlyFor, List.flatMap_singleton]

theorem mendVolume_agree (hfuse : FailsByMount fuse) {f : Footprint} {before after : List PodMount}
    (hpods : plan.pods = before ++ pod :: after)
    (own : ∀ path ∈ podPaths root plan.persistentVolume pod, f.paths path)
    (others : ∀ other ∈ before ++ after,
      f.Disjoint (Footprint.ofPaths (podPaths root plan.persistentVolume other))) (m : Machine) :
    ((mendVolume root plan).run.run (handle fuse) m).1 =
        ((mendVolume root (plan.onlyFor pod)).run.run (handle fuse) m).1 ∧
      Agree f ((mendVolume root plan).run.run (handle fuse) m).2
        ((mendVolume root (plan.onlyFor pod)).run.run (handle fuse) m).2 := by
  have pods (m : Machine) := mendPods_agree hfuse own others m
  -- The global mount is restored alike, whoever the pods are.
  have global : restore (Kubelet.globalMount root (plan.onlyFor pod).persistentVolume)
      (fuseVolume root (plan.onlyFor pod)) =
        restore (Kubelet.globalMount root plan.persistentVolume) (fuseVolume root plan) := rfl
  rw [mendVolume_eq, mendVolume_eq, hpods, run_run_bind, run_run_bind, global]
  obtain ⟨result, m⟩ := (restore (Kubelet.globalMount root plan.persistentVolume)
    (fuseVolume root plan)).run.run (handle fuse) m
  cases result with
  | error e => exact ⟨rfl, (agree_equivalence f).refl m⟩
  | ok value =>
    dsimp only
    rw [run_liftM, run_liftM]
    exact ⟨rfl, pods m⟩

theorem recoverReserved_agree (hfuse : FailsByMount fuse) {before after : List PodMount}
    (hpods : plan.pods = before ++ pod :: after)
    (others : ∀ other ∈ before ++ after, ((plan.onlyFor pod).footprint root).Disjoint
      (Footprint.ofPaths (podPaths root plan.persistentVolume other))) (m : Machine) :
    Agree ((plan.onlyFor pod).footprint root)
      ((recoverReserved root plan).run (handle fuse) m).2
      ((recoverReserved root (plan.onlyFor pod)).run (handle fuse) m).2 := by
  have own : ∀ path ∈ podPaths root plan.persistentVolume pod,
      ((plan.onlyFor pod).footprint root).paths path := by
    intro path hpath
    change path ∈ (plan.onlyFor pod).paths root
    rw [Plan.onlyFor_paths]
    exact List.mem_cons_of_mem _ hpath
  obtain ⟨result, agree⟩ := mendVolume_agree hfuse hpods own others m
  rw [recoverReserved, recoverReserved, run_bind, run_bind, result]
  refine (run_agree (local_handle hfuse _) ?_ agree).2
  refine ⟨rfl, fun _ _ => ?_⟩
  match ((mendVolume root (plan.onlyFor pod)).run.run (handle fuse) m).1 with
  | .ok () => trivial
  | .error e => exact ⟨trivial, fun _ _ => trivial⟩

/-- What a task leaves at the global mount and at the mounts of one pod does not depend on the other
pods. -/
theorem recover_agree (hfuse : FailsByMount fuse) (root : String) {plan : Plan}
    {before after : List PodMount} (hpods : plan.pods = before ++ pod :: after)
    (others : ∀ other ∈ before ++ after, ((plan.onlyFor pod).footprint root).Disjoint
      (Footprint.ofPaths (podPaths root plan.persistentVolume other))) (m : Machine) :
    Agree ((plan.onlyFor pod).footprint root) ((recover root plan).run (handle fuse) m).2
      ((recover root (plan.onlyFor pod)).run (handle fuse) m).2 := by
  rw [recover_eq, recover_eq, Program.run, Program.run]
  change Agree _ (Program.run _ (if (handle fuse (.reserve plan.volume.id) m).1 then _ else _) _).2
    (Program.run _ (if (handle fuse (.reserve plan.volume.id) m).1 then _ else _) _).2
  split
  · exact recoverReserved_agree hfuse hpods others _
  · exact (agree_equivalence _).refl _

end FuseVolumes.Recovery
