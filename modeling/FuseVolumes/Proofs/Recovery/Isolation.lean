import FuseVolumes.Proofs.Recovery.Alone
import FuseVolumes.Proofs.Recovery.Layout

/-!
# Isolation of recovery

However the tasks of a pass take turns, and whatever fails, what becomes of a volume does not depend
on the other volumes, what becomes of a pod's mounts does not depend on the other pods, and nothing
else changes (`recovery_isolated`).
-/

namespace FuseVolumes.Recovery

open Program Node Node.Machine Orchestrator

variable {fuse : FuseMounter} {scope : Scope} {session : Session} {m m' : Machine}
  {prepared : List Prepared} {trace : List (Nat × Node.Call)} {outcomes : List Outcome}
  {v : PersistentVolume}

/-! ## Footprints of volumes -/

/-- The mounts of a volume for the pods that use it, and its handle. -/
def volumeFootprint (root : String) (v : PersistentVolume) (users : List PodMount) : Footprint :=
  ⟨fun path => ∃ use ∈ users, path ∈ mountPaths root v use, fun name => handleOf v = some name⟩

theorem preparedFor_covers (scope : Scope) (session : Session) (v : PersistentVolume)
    (users : List PodMount) :
    ((preparedFor scope session v users).task scope.root).Within
      (volumeFootprint scope.root v users).Covers := by
  by_cases used : users = []
  · obtain ⟨outcome, h⟩ := preparedFor_nil scope session v
    rw [used, h]
    trivial
  rcases preparedFor_cases scope session v with ⟨outcome, h⟩ | ⟨m, hid, h⟩
  · rw [h users used]
    trivial
  · rw [h users used]
    have within := recover_covers scope.root (planFor v users m)
    refine within.mono fun call => Footprint.Covers.mono ?_ ?_
    · intro path hpath
      rcases List.mem_cons.1 hpath with rfl | hpath
      · obtain ⟨use, huse⟩ := List.exists_mem_of_ne_nil users used
        exact ⟨use, huse, List.mem_cons_self⟩
      · obtain ⟨use, huse, hpath⟩ := List.mem_flatMap.1 hpath
        exact ⟨use, huse, List.mem_cons_of_mem _ hpath⟩
    · rintro _ rfl
      exact hid

/-- The footprint of the volume at a position. -/
def footprintAt (root : String) (volumes : List PersistentVolume) (pods : List Pod) (i : Nat) :
    Footprint where
  paths path := ∃ v, volumes[i]? = some v ∧ (volumeFootprint root v (users pods v)).paths path
  names name := ∃ v, volumes[i]? = some v ∧ (volumeFootprint root v (users pods v)).names name

theorem footprintAt_disjoint {volumes : List PersistentVolume} {pods : List Pod}
    (wf : WellFormed volumes pods) (root : String) {i j : Nat} (differ : i ≠ j) :
    (footprintAt root volumes pods i).Disjoint (footprintAt root volumes pods j) := by
  constructor
  · rintro path ⟨v, hv, use, huse, h⟩ ⟨w, hw, use', huse', h'⟩
    have mem := List.mem_of_getElem? hv
    have mem' := List.mem_of_getElem? hw
    refine wf.mountPaths_disjoint mem mem' (fun same => ?_) (fun key hkey hkey' => ?_) huse huse'
      h h'
    · obtain ⟨name, hname⟩ := wf.name_of_mem mem
      obtain ⟨name', hname'⟩ := wf.name_of_mem mem'
      rw [hname, hname', Option.getD_some, Option.getD_some] at same
      exact differ (index_eq_of_nodup wf.names hv hw hname (same ▸ hname'))
    · exact differ (index_eq_of_nodup wf.claims hv hw hkey hkey')
  · rintro name ⟨v, hv, h⟩ ⟨w, hw, h'⟩
    exact differ (index_eq_of_nodup wf.handles hv hw h h')

/-! ## Tasks among others -/

/-- The task of an attached volume. -/
def taskOf (scope : Scope) (session : Session) (v : PersistentVolume) :
    Program Node.interface Outcome :=
  (preparedFor scope session v (users (scope.pods session) v)).task scope.root

/-- The tasks of a pass are those of the attached volumes. -/
theorem Passes.finishes (claims : ((scope.volumes session).filterMap claimKey).Nodup)
    (h : Passes (handle fuse) scope session m prepared trace outcomes m') :
    Finishes (handle fuse) ((scope.volumes session).map (taskOf scope session)) m trace outcomes
      m' := by
  have tasks := h.tasks
  rw [prepare_eq_map claims h.plans, List.map_map] at tasks
  exact tasks

theorem tasks_within {allowed : Nat → Node.Call → Prop}
    (h : ∀ (i : Nat) v, (scope.volumes session)[i]? = some v → ∀ call,
      (volumeFootprint scope.root v (users (scope.pods session) v)).Covers call → allowed i call) :
    AllWithin allowed ((scope.volumes session).map (taskOf scope session)) :=
  allWithin_map fun i v hv => (preparedFor_covers scope session v _).mono (h i v hv)

/-- Each volume ends as if its task had run by itself, as far as it has a say. -/
theorem Passes.isolated (hfuse : FailsByMount fuse)
    (wf : WellFormed (scope.volumes session) (scope.pods session))
    (h : Passes (handle fuse) scope session m prepared trace outcomes m') {i : Nat}
    (hv : (scope.volumes session)[i]? = some v) :
    outcomes[i]? = some ((taskOf scope session v).run (handle fuse) m).1 ∧
      Agree (volumeFootprint scope.root v (users (scope.pods session) v)) m'
        ((taskOf scope session v).run (handle fuse) m).2 := by
  have within : AllWithin
      (fun i => (footprintAt scope.root (scope.volumes session) (scope.pods session) i).Covers)
      ((scope.volumes session).map (taskOf scope session)) := by
    refine tasks_within fun j w hw call => Footprint.Covers.mono ?_ ?_
    · exact fun path h => ⟨w, hw, h⟩
    · exact fun name h => ⟨w, hw, h⟩
  have started : ((scope.volumes session).map (taskOf scope session))[i]? =
      some (taskOf scope session v) := by
    rw [List.getElem?_map, hv, Option.map_some]
  obtain ⟨p, hp, answer, agree⟩ := Reaches.isolated (fun i => local_handle hfuse _)
    (fun i j differ => spares_handle hfuse (footprintAt_disjoint wf scope.root differ))
    (fun i => agree_equivalence _) within (h.finishes wf.claims) started
  rw [List.getElem?_map] at hp
  obtain ⟨outcome, houtcome, rfl⟩ := Option.map_eq_some_iff.1 hp
  refine ⟨houtcome.trans (congrArg some answer), agree.mono ?_ ?_⟩
  · exact fun path h => ⟨v, hv, h⟩
  · exact fun name h => ⟨v, hv, h⟩

/-- What nobody mounts on stays as it is. -/
theorem Passes.spares (hfuse : FailsByMount fuse)
    (claims : ((scope.volumes session).filterMap claimKey).Nodup)
    (h : Passes (handle fuse) scope session m prepared trace outcomes m') {path : String}
    (hpath : ∀ v ∈ scope.volumes session, ∀ use ∈ users (scope.pods session) v,
      path ∉ mountPaths scope.root v use) :
    m'.table.spot path = m.table.spot path := by
  let elsewhere : Footprint := ⟨(· ≠ path), fun _ => True⟩
  have apart : (Footprint.one path).Disjoint elsewhere :=
    ⟨fun _ h differ => differ h, fun _ h => h.elim⟩
  have within : AllWithin (fun _ => elsewhere.Covers)
      ((scope.volumes session).map (taskOf scope session)) := by
    refine tasks_within fun j w hw call => Footprint.Covers.mono ?_ ?_
    · rintro other ⟨use, huse, hother⟩ rfl
      exact hpath w (List.mem_of_getElem? hw) use huse hother
    · exact fun _ _ => trivial
  have same := (h.finishes claims).spares (spares_handle hfuse apart)
    (agree_equivalence (.one path)).refl (fun _ _ _ => (agree_equivalence _).trans) within
  exact (same.spots path rfl).symm

/-! ## Pods among others -/

/-- The mounts of a pod end as if the volume had no other pod. -/
theorem preparedFor_agree (hfuse : FailsByMount fuse) {volumes : List PersistentVolume}
    {pods : List Pod} (wf : WellFormed volumes pods) (hv : v ∈ volumes) {use : PodMount}
    (huse : use ∈ users pods v) (scope : Scope) (session : Session) (m : Machine) :
    Agree (volumeFootprint scope.root v [use])
      (((preparedFor scope session v (users pods v)).task scope.root).run (handle fuse) m).2
      (((preparedFor scope session v [use]).task scope.root).run (handle fuse) m).2 := by
  have used : users pods v ≠ [] := List.ne_nil_of_mem huse
  rcases preparedFor_cases scope session v with ⟨outcome, h⟩ | ⟨found, hid, h⟩
  · rw [h _ used, h _ (List.cons_ne_nil _ _)]
    exact (agree_equivalence _).refl m
  · rw [h _ used, h _ (List.cons_ne_nil _ _)]
    let plan := planFor v (users pods v) found
    have paths : (plan.onlyFor use).paths scope.root = mountPaths scope.root v use :=
      Plan.onlyFor_paths _ _ _
    obtain ⟨before, after, hpods⟩ := List.append_of_mem huse
    have others : ∀ other ∈ before ++ after, ((plan.onlyFor use).footprint scope.root).Disjoint
        (Footprint.ofPaths (podPaths scope.root (v.name.getD "") other)) := by
      intro other hother
      refine ⟨fun path hpath => ?_, fun _ _ h => h⟩
      change path ∈ (plan.onlyFor use).paths scope.root at hpath
      rw [paths] at hpath
      exact wf.others_disjoint hv hpods hother hpath
    refine (recover_agree hfuse scope.root hpods others m).mono ?_ ?_
    · rintro path ⟨_, huse', hpath⟩
      obtain rfl := List.mem_singleton.1 huse'
      rw [← paths] at hpath
      exact hpath
    · intro name hname
      exact Option.some.inj (hname.symm.trans hid)

/-! ## Passes -/

/-- **Isolation.** Whatever fails for a path or for the mount of a volume, and however the tasks of
a pass take turns, the outcome of each volume is that of a pass in which no other is attached; the
mounts of each of its pods, and the one on the node, end as in a pass with no other volume and no
other pod; and every other path is as it was. -/
theorem recovery_isolated (hfuse : FailsByMount fuse)
    (wf : WellFormed (scope.volumes session) (scope.pods session))
    (h : Passes (handle fuse) scope session m prepared trace outcomes m') :
    outcomes.length = (scope.volumes session).length ∧
    (∀ (i : Nat) v, (scope.volumes session)[i]? = some v →
      ∃ outcome, outcomes[i]? = some outcome ∧
        Passing (handle fuse) scope (session.onlyVolume v) m fun alone _ => alone = [outcome]) ∧
    (∀ v ∈ scope.volumes session, ∀ pod ∈ scope.pods session, ∀ use ∈ users [pod] v,
      Passing (handle fuse) scope ((session.onlyVolume v).onlyPod scope.node pod) m fun _ alone =>
        ∀ path ∈ mountPaths scope.root v use, m'.table.spot path = alone.table.spot path) ∧
    ∀ path,
      (∀ v ∈ scope.volumes session, ∀ use ∈ users (scope.pods session) v,
        path ∉ mountPaths scope.root v use) →
      m'.table.spot path = m.table.spot path := by
  refine ⟨by simpa using (h.finishes wf.claims).length_eq, fun i v hv => ?_,
    fun v hv pod hpod use huse => ?_, fun path hpath => h.spares hfuse wf.claims hpath⟩
  · obtain ⟨outcome, -⟩ := h.isolated hfuse wf hv
    refine ⟨_, outcome, passing_singleton ?_ rfl⟩
    exact prepare_onlyVolume h.plans wf.names (List.mem_of_getElem? hv)
  · obtain ⟨i, hi⟩ := List.getElem?_of_mem hv
    have among : use ∈ users (scope.pods session) v :=
      (mem_pods_iff_exists wf.uids).2 ⟨pod, hpod, huse⟩
    have alone := prepare_onlyPod h.plans wf.names hv pod
    rw [users, pods_singleton huse] at alone
    refine passing_singleton alone fun path hpath => ?_
    obtain ⟨-, apart⟩ := h.isolated hfuse wf hi
    have pods := preparedFor_agree hfuse wf hv among scope session m
    exact (apart.spots path ⟨use, among, hpath⟩).trans
      (pods.spots path ⟨use, List.mem_cons_self, hpath⟩)

/-! ## Volumes that share a pod -/

def refusedVolume : PersistentVolume :=
  ⟨some "a", some ⟨"d", "0001-1-0005-admin-0001-v", [], some ⟨some "s", some "ns"⟩⟩,
    some ⟨some "ca", some "ns"⟩, none, []⟩

def mountedVolume : PersistentVolume :=
  ⟨some "b", some ⟨"d", "0001-1-0005-admin-0001-w", [], some ⟨some "s", some "ns"⟩⟩,
    some ⟨some "cb", some "ns"⟩, none, []⟩

/-- A pod of both volumes, with a mount below the second. -/
def sharingPod : Pod :=
  ⟨some "p", some "t", some "ns", none,
    some ⟨some "n", [⟨"x", some ⟨"ca", false⟩⟩, ⟨"y", some ⟨"cb", false⟩⟩], [],
      [⟨"main", [⟨"x", none⟩, ⟨"y", some "logs"⟩]⟩]⟩⟩

/-- A pod of the second volume. -/
def failingPod : Pod :=
  ⟨some "q", some "u", some "ns", none,
    some ⟨some "n", [⟨"y", some ⟨"cb", false⟩⟩], [], [⟨"main", [⟨"y", none⟩]⟩]⟩⟩

def sharedStore : Store where
  nodes := []
  attachments := [some ⟨"n", "d", some "a", true⟩, some ⟨"n", "d", some "b", true⟩]
  volumes := [some refusedVolume, some mountedVolume]
  pods := [("n", some sharingPod), ("n", some failingPod)]
  classes := []
  claims := []
  secrets := [⟨"s", "ns", some ⟨[], [("adminName", "admin"), ("adminSecretKey", "s3cr3t")]⟩⟩]
  refusals := []

/-- The first volume cannot be mounted, and the second not for one of its pods. -/
def failingMachine : Machine :=
  { Machine.ofBench .start with
    refusals := [("v", .failed (.errno 2))]
    failures := { Mount.Failures.none with
      bindMount := [("/k/pods/u/volumes/kubernetes.io~csi/b/mount", 13)] } }

theorem recovery_isolated_from_failing_neighbours :
    let scope : Scope := ⟨"n", "d", "/k", ⟨[("1", "http://fcfs")]⟩⟩
    let session : Session := ⟨sharedStore, [], []⟩
    FailsByMount fuseMount ∧
    WellFormed (scope.volumes session) (scope.pods session) ∧
    ∃ prepared trace m',
      Passes (handle fuseMount) scope session failingMachine prepared trace
        [.failed, .recovered] m' ∧
      Passing (handle fuseMount) scope (session.onlyVolume refusedVolume) failingMachine
        (fun alone _ => alone = [.failed]) ∧
      Passing (handle fuseMount) scope (session.onlyVolume mountedVolume) failingMachine
        (fun alone _ => alone = [.recovered]) ∧
      Passing (handle fuseMount) scope ((session.onlyVolume mountedVolume).onlyPod "n" sharingPod)
        failingMachine (fun _ alone => ∀ path ∈ ["/k/plugins/kubernetes.io/csi/pv/b/globalmount",
          "/k/pods/t/volumes/kubernetes.io~csi/b/mount", "/k/pods/t/volume-subpaths/y/main/1"],
            m'.table.spot path = alone.table.spot path) ∧
      m'.table.spot "/k/pods/u/volumes/kubernetes.io~csi/a/mount" =
        failingMachine.table.spot "/k/pods/u/volumes/kubernetes.io~csi/a/mount" := by
  intro scope session
  have wf : WellFormed (scope.volumes session)
      (scope.pods session) :=
    ⟨by decide, by decide, by decide, by decide, by decide, by decide, by decide, by decide,
      by decide⟩
  obtain ⟨prepared, plans, ended⟩ : ∃ prepared, (session.run (prepare scope)).1 = .ok prepared ∧
      (runAll (handle fuseMount) (prepared.map (·.task scope.root)) failingMachine).1 =
        [.failed, .recovered] :=
    ⟨_, rfl, by decide +kernel⟩
  obtain ⟨trace, passes⟩ := passes_runAll (handle fuseMount) failingMachine plans
  rw [ended] at passes
  obtain ⟨-, outcomes, pods, others⟩ := recovery_isolated fuseMount_failsByMount wf passes
  obtain ⟨_, first, refused⟩ := outcomes 0 refusedVolume rfl
  obtain ⟨_, second, mounted⟩ := outcomes 1 mountedVolume rfl
  cases first
  cases second
  let use : PodMount := ⟨"t", "y", false, [⟨"main", 1, "logs"⟩]⟩
  have paths : mountPaths scope.root mountedVolume use =
      ["/k/plugins/kubernetes.io/csi/pv/b/globalmount",
        "/k/pods/t/volumes/kubernetes.io~csi/b/mount",
        "/k/pods/t/volume-subpaths/y/main/1"] := by decide
  have shared := pods mountedVolume (by decide) sharingPod (by decide) use (by decide)
  rw [paths] at shared
  exact ⟨fuseMount_failsByMount, wf, prepared, trace, _, passes, refused, mounted, shared,
    others _ (by decide)⟩

end FuseVolumes.Recovery
