import FuseVolumes.Proofs.Recovery.Footprint
import FuseVolumes.Proofs.Recovery.Planned

/-!
Where the mounts of a node are. With names that can be names of directories, and each name given
once, the mounts of different volumes are at different paths (`mountPaths_disjoint`), and so are
those of different pods of a volume (`podPaths_disjoint`).
-/

namespace FuseVolumes.Recovery

open Orchestrator Kubelet

variable {root : String}

/-! ## Mounts of pods -/

/-- All names that a pod's mounts are named by can be names of directories. -/
structure PodMount.Named (use : PodMount) : Prop where
  uid : Path.IsName use.uid
  volume : Path.IsName use.volume
  containers : ∀ sub ∈ use.subMounts, Path.IsName sub.container

/-- The places of a pod's mounts. -/
inductive PlaceOf (volume : String) (use : PodMount) : Place → Prop
  | own : PlaceOf volume use (.pod use.uid volume)
  | below {sub : SubMount} (h : sub ∈ use.subMounts) :
    PlaceOf volume use (.container use.uid use.volume sub.container sub.index)

theorem placeOf_of_mem_podPaths {volume path : String} {use : PodMount}
    (h : path ∈ podPaths root volume use) :
    ∃ place, PlaceOf volume use place ∧ path = place.path root := by
  rcases List.mem_cons.1 h with rfl | h
  · exact ⟨_, .own, podVolume_eq _ _ _⟩
  · obtain ⟨sub, hsub, rfl⟩ := List.mem_map.1 h
    exact ⟨_, .below hsub, subPath_eq _ _ _ _ _⟩

theorem PlaceOf.named {volume : String} {use : PodMount} {place : Place}
    (h : PlaceOf volume use place) (hvolume : Path.IsName volume) (named : use.Named) :
    place.Named := by
  cases h with
  | own => exact ⟨named.uid, hvolume⟩
  | below hsub => exact ⟨named.uid, named.volume, named.containers _ hsub⟩

/-- Mounts of different pods are at different paths, and so are those of a pod through different
volumes. -/
theorem podPaths_disjoint {volume volume' path : String} {use use' : PodMount}
    (hvolume : Path.IsName volume) (hvolume' : Path.IsName volume') (named : use.Named)
    (named' : use'.Named)
    (apart : use.uid = use'.uid → volume ≠ volume' ∧ use.volume ≠ use'.volume)
    (h : path ∈ podPaths root volume use) : path ∉ podPaths root volume' use' := by
  intro h'
  obtain ⟨place, hplace, rfl⟩ := placeOf_of_mem_podPaths h
  obtain ⟨place', hplace', same⟩ := placeOf_of_mem_podPaths h'
  have equal :=
    Place.path_injective (hplace.named hvolume named) (hplace'.named hvolume' named') same
  cases hplace with
  | own =>
    cases hplace' with
    | own =>
      obtain ⟨uid, volume⟩ := Place.pod.inj equal
      exact (apart uid).1 volume
    | below => cases equal
  | below =>
    cases hplace' with
    | own => cases equal
    | below =>
      obtain ⟨uid, volume, -, -⟩ := Place.container.inj equal
      exact (apart uid).2 volume

theorem globalMount_not_mem_podPaths (root volume volume' : String) (use : PodMount) :
    globalMount root volume ∉ podPaths root volume' use := by
  intro h
  rcases List.mem_cons.1 h with h | h
  · exact globalMount_ne_podVolume root volume use.uid volume' h
  · obtain ⟨sub, -, h⟩ := List.mem_map.1 h
    exact globalMount_ne_subPath root volume use.uid use.volume sub.container sub.index h.symm

theorem globalMount_inj {volume volume' : String} (hvolume : Path.IsName volume)
    (hvolume' : Path.IsName volume') (h : globalMount root volume = globalMount root volume') :
    volume = volume' := by
  have node : (Place.node volume).Named := hvolume
  have node' : (Place.node volume').Named := hvolume'
  exact Place.node.inj (Place.path_injective node node' h)

/-! ## Mounts of volumes -/

/-- The paths of the mounts of a volume for a pod that uses it. -/
def mountPaths (root : String) (v : PersistentVolume) (use : PodMount) : List String :=
  globalMount root (v.name.getD "") :: podPaths root (v.name.getD "") use

/-- What an orchestrator sees to: that names are names, and each is given once. It grants no name of
dots, either, but nothing here depends on that: paths are told apart by their texts. Without such
names they lead to different places as well (`Place.place_path_injective`). -/
structure WellFormed (volumes : List PersistentVolume) (pods : List Pod) : Prop where
  volumeNames : ∀ v ∈ volumes, Path.IsName (v.name.getD "")
  names : (volumes.filterMap (·.name)).Nodup
  claims : (volumes.filterMap claimKey).Nodup
  handles : (handles volumes).Nodup
  uidNames : ∀ pod ∈ pods, ∀ uid ∈ pod.uid, Path.IsName uid
  uids : (pods.filterMap (·.uid)).Nodup
  podVolumeNames : ∀ pod ∈ pods, ∀ spec ∈ pod.spec, ∀ volume ∈ spec.volumes, Path.IsName volume.name
  podVolumes : ∀ pod ∈ pods, ∀ spec ∈ pod.spec, (spec.volumes.map (·.name)).Nodup
  containerNames : ∀ pod ∈ pods, ∀ spec ∈ pod.spec,
    ∀ c ∈ spec.initContainers ++ spec.containers, Path.IsName c.name

section WellFormed

variable {volumes : List PersistentVolume} {pods : List Pod} {v w : PersistentVolume}

theorem WellFormed.name_of_mem (wf : WellFormed volumes pods) (hv : v ∈ volumes) :
    ∃ name, v.name = some name := by
  refine Option.isSome_iff_exists.1 (Option.isSome_iff_ne_none.2 fun none => ?_)
  have named := wf.volumeNames v hv
  rw [none] at named
  exact named.1 rfl

theorem mem_subMounts {spec : PodSpec} {volume : String} {sub : SubMount}
    (h : sub ∈ subMounts spec volume) :
    ∃ c ∈ spec.initContainers ++ spec.containers, sub.container = c.name := by
  obtain ⟨c, hc, h⟩ := List.mem_flatMap.1 h
  refine ⟨c, hc, ?_⟩
  obtain ⟨⟨mount, index⟩, -, h⟩ := List.mem_filterMap.1 h
  dsimp only at h
  split at h
  · cases h
  · split at h
    · cases h
    · cases h
    · cases h
      rfl

theorem WellFormed.users_named (wf : WellFormed volumes pods) {use : PodMount}
    (h : use ∈ users pods v) : use.Named := by
  obtain ⟨key, -, pod, hpod, h⟩ := mem_podUses_of_mem_pods h
  obtain ⟨huid, spec, hspec, volume, hvolume, hname, hsubs, -⟩ := mem_podUses h
  refine ⟨wf.uidNames pod hpod _ huid, ?_, fun sub hsub => ?_⟩
  · rw [hname]
    exact wf.podVolumeNames pod hpod spec hspec volume hvolume
  · rw [hsubs] at hsub
    obtain ⟨c, hc, hname⟩ := mem_subMounts hsub
    rw [hname]
    exact wf.containerNames pod hpod spec hspec c hc

/-- A pod that uses two claims does so through two of its volumes. -/
theorem WellFormed.users_apart (wf : WellFormed volumes pods)
    (claims : ∀ key, claimKey v = some key → claimKey w ≠ some key) {use use' : PodMount}
    (h : use ∈ users pods v) (h' : use' ∈ users pods w) (same : use.uid = use'.uid) :
    use.volume ≠ use'.volume := by
  obtain ⟨key, hkey, pod, hpod, h⟩ := mem_podUses_of_mem_pods h
  obtain ⟨key', hkey', pod', hpod', h'⟩ := mem_podUses_of_mem_pods h'
  obtain ⟨huid, spec, hspec, volume, hvolume, hname, -, hclaim⟩ := mem_podUses h
  obtain ⟨huid', spec', hspec', volume', hvolume', hname', -, hclaim'⟩ := mem_podUses h'
  obtain rfl : pod = pod' := eq_of_nodup wf.uids hpod hpod' huid (same ▸ huid')
  obtain rfl : spec = spec' := Option.some.inj (hspec.symm.trans hspec')
  intro through
  have distinct : (spec.volumes.filterMap fun volume => some volume.name).Nodup := by
    rw [List.filterMap_eq_map']
    exact wf.podVolumes pod hpod spec hspec
  obtain rfl : volume = volume' :=
    eq_of_nodup distinct hvolume hvolume' rfl (by rw [← hname', ← through, hname])
  obtain rfl : key = key' := Option.some.inj (hclaim.symm.trans hclaim')
  exact claims key hkey hkey'

/-- The mounts of different volumes are at different paths. -/
theorem WellFormed.mountPaths_disjoint (wf : WellFormed volumes pods) (hv : v ∈ volumes)
    (hw : w ∈ volumes) (names : v.name.getD "" ≠ w.name.getD "")
    (claims : ∀ key, claimKey v = some key → claimKey w ≠ some key) {use use' : PodMount}
    (huse : use ∈ users pods v) (huse' : use' ∈ users pods w) {path : String}
    (h : path ∈ mountPaths root v use) : path ∉ mountPaths root w use' := by
  have volume := wf.volumeNames v hv
  have volume' := wf.volumeNames w hw
  have named := wf.users_named huse
  have named' := wf.users_named huse'
  intro h'
  rcases List.mem_cons.1 h with rfl | h
  · rcases List.mem_cons.1 h' with h' | h'
    · exact names (globalMount_inj volume volume' h')
    · exact globalMount_not_mem_podPaths _ _ _ _ h'
  · rcases List.mem_cons.1 h' with rfl | h'
    · exact globalMount_not_mem_podPaths _ _ _ _ h
    · refine podPaths_disjoint volume volume' named named' (fun same => ⟨names, ?_⟩) h h'
      exact wf.users_apart claims huse huse' same

/-- The mounts of a pod and of the volume on the node are at other paths than those of other
pods. -/
theorem WellFormed.others_disjoint (wf : WellFormed volumes pods) (hv : v ∈ volumes)
    {before after : List PodMount} {use other : PodMount}
    (hpods : users pods v = before ++ use :: after) (hother : other ∈ before ++ after)
    {path : String} (h : path ∈ mountPaths root v use) :
    path ∉ podPaths root (v.name.getD "") other := by
  have sorted : Sorted (users pods v) := pods_sorted pods (claimKey v)
  rw [hpods] at sorted
  have huse : use ∈ users pods v := by simp [hpods]
  have hother' : other ∈ users pods v := by
    rw [hpods]
    rcases List.mem_append.1 hother with h | h
    · exact List.mem_append_left _ h
    · exact List.mem_append_right _ (List.mem_cons_of_mem _ h)
  have volume := wf.volumeNames v hv
  rcases List.mem_cons.1 h with rfl | h
  · exact globalMount_not_mem_podPaths _ _ _ _
  · exact podPaths_disjoint volume volume (wf.users_named huse) (wf.users_named hother')
      (fun same => absurd same (sorted.others hother)) h

end WellFormed

end FuseVolumes.Recovery
