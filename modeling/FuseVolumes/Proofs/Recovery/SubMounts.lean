import FuseVolumes.Proofs.Recovery.PassedOver

/-!
# Mounts below the volumes of a claim

The index has an entry for a pod and a claim exactly when the pod is to be recovered for it
(`exists_entry_iff`). The entry is of the first volume that is for the claim (`entry_eq`), and knows
of the mounts below that volume. So it has all those below the claim unless a container mounts a
path below another volume of the same claim (`sub_mounts_of_claim_iff`).
-/

namespace FuseVolumes.Recovery

open Orchestrator

variable {pod : Pod} {pods : List Pod} {spec : PodSpec} {claim : String × String} {x : PodMount}

/-! ## Mounts with a path -/

/-- The mounts of a container that have a path below their volume, each with the volume. -/
def containerPaths (c : Container) : List (String × SubMount) :=
  c.mounts.zipIdx.filterMap fun (mount, index) =>
    (mount.subPath.filter (· ≠ "")).map fun path => (mount.volume, ⟨c.name, index, path⟩)

/-- Those of a pod's containers, the ones that run first before the others. -/
def mountedPaths (spec : PodSpec) : List (String × SubMount) :=
  (spec.initContainers ++ spec.containers).flatMap containerPaths

/-- Those below volumes with such names. -/
def pathsBelow (named : String → Bool) (spec : PodSpec) : List SubMount :=
  ((mountedPaths spec).filter fun mount => named mount.1).map Prod.snd

theorem containerSubMounts_eq (volume : String) (c : Container) :
    containerSubMounts volume c =
      ((containerPaths c).filter fun mount => mount.1 == volume).map Prod.snd := by
  rw [containerSubMounts, containerPaths, List.filter_filterMap, List.map_filterMap]
  congr 1
  funext ⟨⟨name, path?⟩, index⟩
  cases path? with
  | none => simp
  | some path =>
    by_cases empty : path = ""
    · simp [Option.filter, empty]
    · by_cases same : name = volume <;> simp [Option.filter, empty, same]

theorem subMounts_eq (spec : PodSpec) (volume : String) :
    subMounts spec volume = pathsBelow (· == volume) spec := by
  rw [subMounts, pathsBelow, mountedPaths, List.filter_flatMap, List.map_flatMap]
  congr 1
  funext c
  exact containerSubMounts_eq volume c

/-- The mounts below some of the names are chosen from those below all of them. -/
theorem pathsBelow_eq_filter {fewer more : String → Bool}
    (within : ∀ name, fewer name = true → more name = true) :
    pathsBelow fewer spec =
      (((mountedPaths spec).filter fun mount => more mount.1).filter
        fun mount => fewer mount.1).map Prod.snd := by
  rw [pathsBelow, List.filter_filter]
  congr 1
  refine List.filter_congr fun mount _ => ?_
  cases few : fewer mount.1 with
  | false => rfl
  | true => rw [within _ few, Bool.and_self]

theorem pathsBelow_sublist {fewer more : String → Bool}
    (within : ∀ name, fewer name = true → more name = true) :
    (pathsBelow fewer spec).Sublist (pathsBelow more spec) := by
  rw [pathsBelow_eq_filter within]
  exact List.filter_sublist.map Prod.snd

/-- None is left out if and only if every mount below one of all the names is below one of these. -/
theorem pathsBelow_eq_iff {fewer more : String → Bool}
    (within : ∀ name, fewer name = true → more name = true) :
    pathsBelow fewer spec = pathsBelow more spec ↔
      ∀ mount ∈ mountedPaths spec, more mount.1 = true → fewer mount.1 = true := by
  rw [pathsBelow_eq_filter within, pathsBelow]
  constructor
  · intro same mount hmount hmore
    have size := congrArg List.length same
    rw [List.length_map, List.length_map] at size
    have kept := List.filter_eq_self.1 (List.filter_sublist.eq_of_length size)
    exact kept mount (List.mem_filter.2 ⟨hmount, hmore⟩)
  · intro covered
    have kept := List.filter_eq_self.2 fun mount h =>
      covered mount (List.mem_filter.1 h).1 (List.mem_filter.1 h).2
    exact congrArg (List.map Prod.snd) kept

/-! ## Entries -/

/-- A volume of the pod is for the claim. -/
def isFor (pod : Pod) (claim : String × String) (volume : PodVolume) : Bool :=
  volume.claim.map (fun c => (pod.«namespace».getD "", c.claim)) == some claim

/-- The mounts below all volumes of the pod that are for the claim. -/
def claimPaths (pod : Pod) (spec : PodSpec) (claim : String × String) : List SubMount :=
  pathsBelow
    (fun name => spec.volumes.any fun volume => volume.name == name && isFor pod claim volume) spec

/-- There is an entry for a pod that has not run to its end and refers to the claim. -/
theorem exists_entry_iff {uid : String} :
    (∃ x ∈ (PodIndex.ofPods pods).pods (some claim), x.uid = uid) ↔
      ∃ pod ∈ pods, pod.uid = some uid ∧ pod.isTerminated = false ∧ RefersTo pod claim := by
  constructor
  · rintro ⟨x, hx, rfl⟩
    obtain ⟨key, ⟨⟩, pod, hpod, huse⟩ := mem_podUses_of_mem_pods hx
    obtain ⟨-, running, refers⟩ := exists_use_iff.1 ⟨x, huse⟩
    exact ⟨pod, hpod, (mem_podUses huse).1, running, refers⟩
  · rintro ⟨pod, hpod, huid, running, refers⟩
    obtain ⟨use, huse⟩ := exists_use_iff.2 ⟨by rw [huid]; rfl, running, refers⟩
    have uid : use.uid = uid := Option.some.inj ((mem_podUses huse).1.symm.trans huid)
    obtain ⟨x, hx, same⟩ := exists_told (mem_usesOf_of_mem_podUses hpod huse)
    exact ⟨x, hx, same.trans uid⟩

/-- The use that a pod makes of a volume's claim. -/
def useThrough (uid : String) (spec : PodSpec) (volume : PodVolume) : Option PodMount :=
  volume.claim.map fun c => ⟨uid, volume.name, c.readOnly, subMounts spec volume.name⟩

theorem of_useThrough {uid : String} {volume : PodVolume}
    (h : useThrough uid spec volume = some x) :
    x.volume = volume.name ∧ x.subMounts = subMounts spec volume.name := by
  obtain ⟨c, -, rfl⟩ := Option.map_eq_some_iff.1 h
  exact ⟨rfl, rfl⟩

/-- A volume that is for a claim is used with the uid of its pod. -/
theorem any_useThrough {uid : String} {volume : PodVolume} :
    Option.any (·.uid == uid)
      (if isFor pod claim volume then useThrough uid spec volume else none) =
      isFor pod claim volume := by
  cases referring : isFor pod claim volume with
  | false => rfl
  | true =>
    cases hc : volume.claim with
    | none => simp [isFor, hc] at referring
    | some c => simp [useThrough, hc]

theorem usesOf_singleton {uid : String} (huid : pod.uid = some uid) (hspec : pod.spec = some spec)
    (running : pod.isTerminated = false) :
    usesOf claim [pod] = spec.volumes.filterMap fun volume =>
      if isFor pod claim volume then useThrough uid spec volume else none := by
  have uses : podUses pod = spec.volumes.filterMap fun volume => volume.claim.map fun c =>
      ((pod.«namespace».getD "", c.claim),
        ⟨uid, volume.name, c.readOnly, subMounts spec volume.name⟩) := by
    rw [podUses, huid, hspec]
    simp [running]
  rw [usesOf, List.flatMap_singleton, uses, List.filterMap_filterMap]
  congr 1
  funext volume
  cases hc : volume.claim with
  | none => simp [useThrough, hc]
  | some c => simp [isFor, useThrough, hc]

/-- An entry tells of the mounts below the first volume of the pod that is for the claim. -/
theorem entry_eq (h : x ∈ (PodIndex.ofPods [pod]).pods (some claim)) :
    ∃ spec first, pod.spec = some spec ∧ spec.volumes.find? (isFor pod claim) = some first ∧
      x.volume = first.name ∧ x.subMounts = pathsBelow (· == first.name) spec := by
  obtain ⟨key, ⟨⟩, owner, howner, huse⟩ := mem_podUses_of_mem_pods h
  obtain rfl := List.mem_singleton.1 howner
  obtain ⟨-, running, -⟩ := exists_use_iff.1 ⟨x, huse⟩
  obtain ⟨huid, spec, hspec, -⟩ := mem_podUses huse
  have found := mem_pods_iff_find?.1 h
  rw [usesOf_singleton huid hspec running, List.find?_filterMap] at found
  simp only [any_useThrough] at found
  obtain ⟨first, hfirst, hx⟩ := Option.bind_eq_some_iff.1 found
  rw [if_pos (List.find?_some hfirst)] at hx
  obtain ⟨named, below⟩ := of_useThrough hx
  exact ⟨spec, first, hspec, hfirst, named, below.trans (subMounts_eq spec first.name)⟩

/-! ## Mounts of an entry -/

/-- **Mounts below a claim.** Among pods with different uids there is an entry for every pod that
has not run to its end and refers to the claim. It tells of the mounts below the first volume of the
pod for the claim, so of none but those below the volumes for the claim, in their order, and of all
of these exactly when each is below the first. -/
theorem sub_mounts_of_claim_iff (distinct : (pods.filterMap (·.uid)).Nodup)
    (claim : String × String) :
    (∀ uid, (∃ x ∈ (PodIndex.ofPods pods).pods (some claim), x.uid = uid) ↔
      ∃ pod ∈ pods, pod.uid = some uid ∧ pod.isTerminated = false ∧ RefersTo pod claim) ∧
    ∀ x ∈ (PodIndex.ofPods pods).pods (some claim), ∀ pod ∈ pods, pod.uid = some x.uid →
      ∃ spec first, pod.spec = some spec ∧ spec.volumes.find? (isFor pod claim) = some first ∧
        x.volume = first.name ∧ x.subMounts = pathsBelow (· == first.name) spec ∧
        x.subMounts.Sublist (claimPaths pod spec claim) ∧
        (x.subMounts = claimPaths pod spec claim ↔ ∀ mount ∈ mountedPaths spec,
          ∀ volume ∈ spec.volumes, volume.name = mount.1 → isFor pod claim volume = true →
            mount.1 = first.name) := by
  refine ⟨fun _ => exists_entry_iff, fun x hx pod hpod huid => ?_⟩
  obtain ⟨owner, howner, own⟩ := (mem_pods_iff_exists distinct).1 hx
  obtain ⟨key, -, sole, hsole, huse⟩ := mem_podUses_of_mem_pods own
  obtain rfl := List.mem_singleton.1 hsole
  obtain rfl : pod = sole := eq_of_nodup distinct hpod howner huid (mem_podUses huse).1
  obtain ⟨spec, first, hspec, hfirst, named, told⟩ := entry_eq own
  have within (name : String) (h : (name == first.name) = true) :
      (spec.volumes.any fun volume => volume.name == name && isFor pod claim volume) = true := by
    refine List.any_eq_true.2 ⟨first, List.mem_of_find?_eq_some hfirst, ?_⟩
    rw [eq_of_beq h, beq_self_eq_true, List.find?_some hfirst, Bool.and_self]
  refine ⟨spec, first, hspec, hfirst, named, told, ?_, ?_⟩
  · rw [told]
    exact pathsBelow_sublist within
  · rw [told, claimPaths, pathsBelow_eq_iff within]
    simp only [List.any_eq_true, Bool.and_eq_true, beq_iff_eq, forall_exists_index, and_imp]

/-- A pod that mounts paths below volumes for two claims, one path twice. -/
def mixedPod : Pod :=
  ⟨some "pod", some "uid-1", some "default", some "Running", some ⟨some "node",
    [⟨"vol-b", some ⟨"claim-b", false⟩⟩, ⟨"vol-a", some ⟨"claim-a", true⟩⟩],
    [⟨"init", [⟨"vol-a", some "seed"⟩]⟩],
    [⟨"app", [⟨"vol-b", some "b"⟩, ⟨"vol-a", some "logs"⟩, ⟨"vol-a", some ""⟩,
      ⟨"vol-a", some "logs"⟩]⟩]⟩⟩

/-- Every path below the one volume for a claim is told of, at its own place. -/
theorem sub_mounts_of_claim_of_mixedPod :
    ∃ x ∈ (PodIndex.ofPods [mixedPod]).pods (some ("default", "claim-a")),
      x.uid = "uid-1" ∧
      x.subMounts = [⟨"init", 0, "seed"⟩, ⟨"app", 1, "logs"⟩, ⟨"app", 3, "logs"⟩] := by
  obtain ⟨entries, told⟩ := @sub_mounts_of_claim_iff [mixedPod] (by decide) ("default", "claim-a")
  obtain ⟨x, hx, huid⟩ := (entries "uid-1").2
    ⟨_, List.mem_cons_self, rfl, by decide, _, rfl, _, List.mem_cons_of_mem _ List.mem_cons_self,
      rfl⟩
  obtain ⟨spec, first, hspec, hfirst, -, -, -, whole⟩ :=
    told x hx _ List.mem_cons_self (congrArg some huid.symm)
  obtain rfl := Option.some.inj hspec
  obtain rfl := Option.some.inj hfirst
  exact ⟨x, hx, huid, (whole.2 (by decide)).trans (by decide)⟩

/-- A pod that mounts a path below the second of two volumes for one claim. -/
def pairedPod : Pod :=
  ⟨some "pod", some "uid-1", some "default", some "Running", some ⟨some "node",
    [⟨"first", some ⟨"claim", false⟩⟩, ⟨"second", some ⟨"claim", false⟩⟩], [],
    [⟨"app", [⟨"first", none⟩, ⟨"second", some "logs"⟩]⟩]⟩⟩

/-- **Left out.** The path below the second volume is in no entry. -/
theorem second_volume_left_out :
    (PodIndex.ofPods [pairedPod]).pods (some ("default", "claim")) =
      [⟨"uid-1", "first", false, []⟩] ∧
    ¬ ∀ pods : List Pod, (pods.filterMap (·.uid)).Nodup →
      (∀ pod ∈ pods, ∀ spec, pod.spec = some spec → (spec.volumes.map (·.name)).Nodup) →
      ∀ claim, ∀ x ∈ (PodIndex.ofPods pods).pods (some claim),
        ∀ pod ∈ pods, pod.uid = some x.uid → ∀ spec, pod.spec = some spec →
          x.subMounts = claimPaths pod spec claim := by
  have index : (PodIndex.ofPods [pairedPod]).pods (some ("default", "claim")) =
      [⟨"uid-1", "first", false, []⟩] := by decide
  refine ⟨index, fun claim => ?_⟩
  have names (spec : PodSpec) (h : pairedPod.spec = some spec) :
      (spec.volumes.map (·.name)).Nodup := by
    obtain rfl := Option.some.inj h
    decide
  have entry : (⟨"uid-1", "first", false, []⟩ : PodMount) ∈
      (PodIndex.ofPods [pairedPod]).pods (some ("default", "claim")) := by
    rw [index]
    exact List.mem_cons_self
  have whole := claim [pairedPod] (by decide) (List.forall_mem_singleton.2 names)
    ("default", "claim") _ entry pairedPod List.mem_cons_self rfl _ rfl
  exact absurd whole (by decide)

end FuseVolumes.Recovery
