import FuseVolumes.Proofs.Node.Source
import FuseVolumes.Proofs.Recovery.Ending
import FuseVolumes.Proofs.Recovery.Isolation

/-!
# Pods and live volumes

The recovery of a volume looks after its global mount before it binds it. From then on the mount
answers, whatever fails, since nobody takes down a mount that answers and the other volumes are
elsewhere. Publishing does not look at its staging path. So a pod is given a volume that answers by
every recovery, and by publishing if and only if the staging path had one (`binds_live`).
-/

namespace FuseVolumes.Recovery

open Program Node Mount Orchestrator

/-! ## One path, whatever happens elsewhere -/

/-- What requests do to the mount on a path. -/
abbrev effectsAt (path : String) : Effects Node.interface (Option Health) :=
  seen (fun v : View => v.table.mount? path) Node.effects

/-- What the recovery of a volume binds: the global mount on the mounts of its pods, as long as it
answers, and paths below those on the mounts of their containers. -/
def Plan.Binds (root : String) (plan : Plan) : Node.Call → Option Health → Prop
  | .bindMount source target _, mount? =>
    (source = Kubelet.globalMount root plan.persistentVolume ∧
      (∃ pod ∈ plan.pods, target = Kubelet.podVolume root pod.uid plan.persistentVolume) ∧
      mount? = some .healthy) ∨
    ∃ pod ∈ plan.pods, ∃ sub ∈ pod.subMounts,
      source = Path.join (Kubelet.podVolume root pod.uid plan.persistentVolume) sub.subPath ∧
      target = Kubelet.subPath root pod.uid pod.volume sub.container sub.index
  | _, _ => True

theorem Plan.binds_of_bindless {root : String} {plan : Plan} {call : Node.Call}
    {mount? : Option Health} (h : Bindless call) : plan.Binds root call mount? := by
  cases call <;> trivial

/-! ## Mending the pods of a volume that answers -/

/-- Work that binds as it should where the global mount answers, and leaves it so. -/
def Live {α : Type} (root : String) (plan : Plan) (p : Program Node.interface α) : Prop :=
  p.Holds (effectsAt (Kubelet.globalMount root plan.persistentVolume)) (plan.Binds root)
    (fun _ mount? => mount? = some .healthy) (some .healthy)

section Live

variable {α : Type} {root : String} {plan : Plan}

theorem live_ask {call : Node.Call} {next : call.Reply → Program Node.interface α}
    (binds : plan.Binds root call (some .healthy))
    (spared : call ≠ .unmount (Kubelet.globalMount root plan.persistentVolume))
    (hnext : ∀ reply, Live root plan (next reply)) :
    Live root plan (.ask (I := Node.interface) call next) := by
  refine ⟨binds, ?_⟩
  rintro reply mount? ⟨v, v', healthy, rfl, h⟩
  have after := healthy_of_spared h healthy spared
  dsimp only
  rw [after]
  exact hnext reply

theorem live_of_within {p : Program Node.interface α}
    (h : p.Within fun call : Node.Call => Bindless call ∧
      call ≠ .unmount (Kubelet.globalMount root plan.persistentVolume)) :
    Live root plan p := by
  induction p with
  | done a => rfl
  | ask call next ih =>
    exact live_ask (Plan.binds_of_bindless h.1.1) h.1.2 fun reply => ih reply (h.next reply)

theorem live_compositional (root : String) (plan : Plan) :
    Compositional fun p => Live root plan p where
  done a := rfl
  log event := live_ask trivial nofun fun _ => rfl
  bind hp hf := by
    refine holds_bind hp ?_
    rintro a _ rfl
    exact hf a

theorem live_ensure (path : String) : Live root plan (MountPoint.ensure path).run := by
  by_cases same : path = Kubelet.globalMount root plan.persistentVolume
  · subst same
    rw [MountPoint.ensure_run]
    refine ⟨trivial, ?_⟩
    rintro _ _ ⟨v, _, healthy, rfl, rfl, rfl⟩
    rw [Table.isMountPoint, Table.state_eq_mounted_iff.2 healthy]
    refine ⟨trivial, ?_⟩
    rintro _ _ ⟨v', _, healthy', rfl, rfl, rfl⟩
    rw [Table.probe, Table.state_eq_mounted_iff.2 (healthy'.trans healthy)]
    exact healthy'.trans healthy
  · have apart : (MountPoint.ensure path).run.Within fun call : Node.Call =>
        call ≠ .unmount (Kubelet.globalMount root plan.persistentVolume) := by
      refine (MountPoint.ensure_within path).mono ?_
      rintro _ covered rfl
      exact same covered.symm
    exact live_of_within ((MountPoint.ensure_bindless path).and apart)

theorem live_restore (path : String) {mount : Mending Unit} (h : Live root plan mount.run) :
    Live root plan (restore path mount).run := by
  rw [restore_run]
  refine (live_compositional root plan).bind (live_ensure path) fun answer => ?_
  match answer with
  | .ok true => rfl
  | .ok false => exact h
  | .error e => rfl

theorem live_bindPod {pod : PodMount} (h : pod ∈ plan.pods) :
    Live root plan (bindPod root plan pod).run := by
  refine live_ask (.inl ⟨rfl, ⟨pod, h, rfl⟩, rfl⟩) nofun fun reply => ?_
  cases reply with
  | ok _ => exact live_ask trivial nofun fun _ => rfl
  | error e => rfl

theorem live_bindSub {pod : PodMount} (h : pod ∈ plan.pods) {sub : SubMount}
    (hsub : sub ∈ pod.subMounts) : Live root plan (bindSub root
      (Kubelet.podVolume root pod.uid plan.persistentVolume) pod sub).run :=
  live_ask (.inr ⟨pod, h, sub, hsub, rfl, rfl⟩) nofun fun _ => rfl

theorem live_mendPods (root : String) (plan : Plan) :
    Live root plan (mendPods root plan plan.pods) := by
  refine (live_compositional root plan).mendPods _ fun r hr => live_restore r.1 ?_
  obtain ⟨pod, hpod, hr⟩ := List.mem_flatMap.1 hr
  rcases List.mem_cons.1 hr with rfl | hr
  · exact live_bindPod hpod
  · obtain ⟨sub, hsub, rfl⟩ := List.mem_map.1 hr
    exact live_bindSub hpod hsub

end Live

/-! ## The whole of a volume -/

theorem restoreGlobal_bindless (root : String) (plan : Plan) :
    (restore (Kubelet.globalMount root plan.persistentVolume) (fuseVolume root plan)).run.Within
      Bindless := by
  rw [restore_run]
  refine within_bind (MountPoint.ensure_bindless _) fun answer => ?_
  match answer with
  | .ok true => trivial
  | .ok false =>
    exact within_run_bind (within_liftM (within_request trivial)) fun _ =>
      within_orFail (within_request trivial)
  | .error e => trivial

/-- A global mount that was restored answers. -/
theorem restoreGlobal_holds (root : String) (plan : Plan) (mount? : Option Health) :
    (restore (Kubelet.globalMount root plan.persistentVolume) (fuseVolume root plan)).run.Holds
      (effectsAt (Kubelet.globalMount root plan.persistentVolume)) (plan.Binds root)
      (fun result mount? => result = .ok () → mount? = some .healthy) mount? := by
  have bindless := (restoreGlobal_mounts root plan mount?).within (restoreGlobal_bindless root plan)
  refine (bindless.weaken fun _ _ h => Plan.binds_of_bindless h.2).restrict ?_
  rintro call reply _ _ ⟨v, v', rfl, rfl, h⟩
  exact ⟨v, v', rfl, rfl, faultyEffects_of_effects h⟩

/-- Whatever was on the path of its global mount, a volume that is recovered binds as it should. -/
theorem recover_binds (root : String) (plan : Plan) (mount? : Option Health) :
    (recover root plan).Holds (effectsAt (Kubelet.globalMount root plan.persistentVolume))
      (plan.Binds root) (fun _ _ => True) mount? := by
  rw [recover_eq]
  refine ⟨trivial, fun taken mount? _ => ?_⟩
  cases taken with
  | false => exact ⟨trivial, fun _ _ _ => trivial⟩
  | true =>
    have mended : (mendVolume root plan).run.Holds
        (effectsAt (Kubelet.globalMount root plan.persistentVolume)) (plan.Binds root)
        (fun _ _ => True) mount? := by
      rw [mendVolume_eq]
      refine holds_run_bind (restoreGlobal_holds root plan mount?) ?_ fun _ _ _ => trivial
      intro _ mount? healthy
      rw [healthy rfl]
      exact holds_liftM ((live_mendPods root plan).mono fun _ _ _ => trivial)
    refine holds_bind mended fun result _ _ => ⟨trivial, fun _ _ _ => ?_⟩
    cases result with
    | ok _ => trivial
    | error e => exact ⟨trivial, fun _ _ _ => trivial⟩

/-! ## Passes -/

section Pass

variable {σ : Type} {handler : Handler Node.interface σ} {view : σ → View} {sound : σ → Prop}
  {s s' : σ} {scope : Scope} {session : Session} {prepared : List Prepared}
  {trace : List (Nat × Node.Call)} {tasks : List (Program Node.interface Outcome)} {i : Nat}

/-- A volume is planned by its name, for pods that use it. -/
theorem planned_at (wf : WellFormed (scope.volumes session) (scope.pods session))
    (plans : (session.run (prepare scope)).1 = .ok prepared) {plan : Plan}
    (h : prepared[i]? = some (.planned plan)) :
    (footprintAt scope.root (scope.volumes session) (scope.pods session) i).paths
      (Kubelet.globalMount scope.root plan.persistentVolume) := by
  rw [prepare_eq_map wf.claims plans, List.getElem?_map] at h
  obtain ⟨v, hv, h⟩ := Option.map_eq_some_iff.1 h
  have used : users (scope.pods session) v ≠ [] := by
    intro none
    obtain ⟨outcome, counted⟩ := preparedFor_nil scope session v
    rw [none, counted] at h
    cases h
  obtain ⟨use, huse⟩ := List.exists_mem_of_ne_nil _ used
  rcases preparedFor_cases scope session v with ⟨outcome, counted⟩ | ⟨found, -, planned⟩
  · rw [counted _ used] at h
    cases h
  · rw [planned _ used] at h
    cases h
    exact ⟨v, hv, use, huse, List.mem_cons_self⟩

/-- However the tasks of a pass take turns, whatever one of them is about to bind is bound as it
should. -/
theorem pass_binds (behaves : Behaves handler Node.effects view sound) (hs : sound s)
    (wf : WellFormed (scope.volumes session) (scope.pods session))
    (plans : (session.run (prepare scope)).1 = .ok prepared)
    (reached : Reaches handler (prepared.map (·.task scope.root)) s trace tasks s')
    {call : Node.Call} {next : call.Reply → Program Node.interface Outcome}
    (about : tasks[i]? = some (.ask (I := Node.interface) call next)) :
    ∃ plan, prepared[i]? = some (.planned plan) ∧ plan.Binds scope.root call
      ((view s').table.mount? (Kubelet.globalMount scope.root plan.persistentVolume)) := by
  have within : AllWithin
      (fun j => (footprintAt scope.root (scope.volumes session) (scope.pods session) j).Covers)
      (prepared.map (·.task scope.root)) := by
    rw [prepare_eq_map wf.claims plans, List.map_map]
    refine tasks_within fun j w hw call => Footprint.Covers.mono ?_ ?_
    · exact fun path h => ⟨w, hw, h⟩
    · exact fun name h => ⟨w, hw, h⟩
  have hlt : i < prepared.length := by
    have length := reached.length_eq
    rw [List.length_map] at length
    rw [← length]
    exact (List.getElem?_eq_some_iff.1 about).1
  have started : (prepared.map (·.task scope.root))[i]? = some (prepared[i].task scope.root) := by
    rw [List.getElem?_map, List.getElem?_eq_getElem hlt, Option.map_some]
  cases planned : prepared[i] with
  | counted outcome =>
    -- Such a task has ended before it began.
    rw [planned] at started
    obtain ⟨p, hp, never⟩ := reached.holds (behaves.seen fun _ => ()) (fun _ _ _ _ _ _ => rfl)
      within hs started (show Holds _ (fun _ _ => False) (fun _ _ => True) (.done outcome) ()
        from trivial)
    cases about.symm.trans hp
    exact never.1.elim
  | planned plan =>
    rw [planned] at started
    have atPlan : prepared[i]? = some (.planned plan) := by
      rw [List.getElem?_eq_getElem hlt, planned]
    have others (j : Nat) (call : Node.Call) (s : σ) (differ : j ≠ i) (hs : sound s)
        (covered : (footprintAt scope.root (scope.volumes session) (scope.pods session) j).Covers
          call) :
        (view (handler call s).2).table.mount?
            (Kubelet.globalMount scope.root plan.persistentVolume) =
          (view s).table.mount? (Kubelet.globalMount scope.root plan.persistentVolume) := by
      have apart := (footprintAt_disjoint wf scope.root (Ne.symm differ)).1 _
        (planned_at wf plans atPlan)
      exact Table.mount?_congr (spot_of_covers (behaves.effects call s hs) covered apart)
    obtain ⟨p, hp, holds⟩ := reached.holds (behaves.seen fun v => v.table.mount?
      (Kubelet.globalMount scope.root plan.persistentVolume)) others within hs started
      (recover_binds scope.root plan _)
    cases about.symm.trans hp
    exact ⟨plan, atPlan, holds.1⟩

variable {clusters : Clusters} {info : Info}

/-- **Live volumes.** A request binds nothing but the staging path that it publishes, and at that
moment a mount answers there if and only if one did before the request. However the tasks of a
recovery pass take turns, and whatever fails, a volume is bound on the mount of a pod from its
global mount, on which a mount answers at that moment; all else that is bound is below such a
mount. -/
theorem binds_live (behaves : Behaves handler Node.effects view sound) (hs : sound s) :
    (∀ (r : Node.Request) source target options met,
      (Node.Call.bindMount source target options, met) ∈
        (r.answer clusters info).run.met handler s →
      ∃ q, r = .publish q ∧ source = q.stagingPath ∧ target = q.targetPath ∧
        ((view met).table.state source = .mounted .healthy ↔
          (view s).table.state source = .mounted .healthy)) ∧
    ∀ (scope : Scope) (session : Session) prepared trace tasks s',
      WellFormed (scope.volumes session) (scope.pods session) →
      (session.run (prepare scope)).1 = .ok prepared →
      Reaches handler (prepared.map (·.task scope.root)) s trace tasks s' →
      ∀ (i : Nat) source target options next,
        tasks[i]? = some (.ask (I := Node.interface) (.bindMount source target options) next) →
        ∃ plan, prepared[i]? = some (.planned plan) ∧
          ((source = Kubelet.globalMount scope.root plan.persistentVolume ∧
              (∃ pod ∈ plan.pods,
                target = Kubelet.podVolume scope.root pod.uid plan.persistentVolume) ∧
              (view s').table.state source = .mounted .healthy) ∨
            ∃ pod ∈ plan.pods, ∃ sub ∈ pod.subMounts,
              source = Path.join
                (Kubelet.podVolume scope.root pod.uid plan.persistentVolume) sub.subPath ∧
              target = Kubelet.subPath scope.root pod.uid pod.volume sub.container sub.index) := by
  constructor
  · intro r source target options met h
    exact ((r.answer_binds (view s)).run behaves hs).2 _ h
  · intro scope session prepared trace tasks s' wf plans reached i source target options next about
    obtain ⟨plan, planned, binds⟩ := pass_binds behaves hs wf plans reached about
    refine ⟨plan, planned, ?_⟩
    rcases binds with ⟨rfl, pods, healthy⟩ | below
    · exact .inl ⟨rfl, pods, Table.state_eq_mounted_iff.2 healthy⟩
    · exact .inr below

end Pass

/-! ## A volume whose daemon is lost -/

/-- The request that a task is about to make. -/
def pending? : Program Node.interface Outcome → Option Node.Call
  | .ask call _ => some call
  | .done _ => none

theorem exists_of_pending? {p : Program Node.interface Outcome} {call : Node.Call}
    (h : pending? p = some call) : ∃ next, p = .ask (I := Node.interface) call next := by
  cases p with
  | done outcome => cases h
  | ask call next =>
    cases h
    exact ⟨next, rfl⟩

/-- A volume is published from a mount that answers. -/
def publication : Node.Request := .publish ⟨"v", "/s", "/t", some ⟨none, none⟩, false⟩

theorem binds_live_after_lost_daemon :
    let scope : Scope := ⟨"n", "d", "/k", ⟨[("1", "http://fcfs")]⟩⟩
    let session :=
      ((Session.mk sharedStore [] []).onlyVolume mountedVolume).onlyPod "n" failingPod
    let plan : Plan := ⟨"b", ⟨"0001-1-0005-admin-0001-w", "w", "1", "http://fcfs", 0, false⟩,
      [("adminName", "admin"), ("adminSecretKey", "s3cr3t")], [], [⟨"u", "y", false, []⟩]⟩
    let globalMount := "/k/plugins/kubernetes.io/csi/pv/b/globalmount"
    let m : Machine := { Machine.ofBench .start with
      table := ⟨[], [(globalMount, .disconnected), ("/s", .healthy)]⟩ }
    let handler := Machine.handle Machine.fuseMount
    let program := (publication.answer ⟨[]⟩ ⟨"n", 0, []⟩).run
    Behaves handler Node.effects Machine.view Machine.Tells ∧ m.Tells ∧
    WellFormed (scope.volumes session) (scope.pods session) ∧
    (session.run (prepare scope)).1 = .ok [.planned plan] ∧
    m.table.state globalMount = .mounted .disconnected ∧
    (∃ options met, (Node.Call.bindMount "/s" "/t" options, met) ∈ program.met handler m ∧
      met.table.state "/s" = .mounted .healthy) ∧
    ∃ trace tasks m' options next, Reaches handler [recover scope.root plan] m trace tasks m' ∧
      tasks[0]? = some (.ask (I := Node.interface) (.bindMount globalMount
        "/k/pods/u/volumes/kubernetes.io~csi/b/mount" options) next) ∧
      m'.table.state globalMount = .mounted .healthy := by
  intro scope session plan globalMount m handler program
  have behaves : Behaves handler Node.effects Machine.view Machine.Tells :=
    Machine.handle_behaves Machine.fuseMount_failsByMount
  have tells : m.Tells := ⟨rfl, rfl⟩
  have wf : WellFormed (scope.volumes session) (scope.pods session) :=
    ⟨by decide, by decide, by decide, by decide, by decide, by decide, by decide, by decide,
      by decide⟩
  have plans : (session.run (prepare scope)).1 = .ok [.planned plan] := rfl
  obtain ⟨requests, passes⟩ := @binds_live _ _ _ _ m ⟨[]⟩ ⟨"n", 0, []⟩ behaves tells
  refine ⟨behaves, tells, wf, plans, by decide, ?_, ?_⟩
  · have asked : Node.Call.bindMount "/s" "/t" (Service.publishOptions [] false) ∈
        (program.met handler m).map (·.1) := by decide +kernel
    obtain ⟨⟨call, met⟩, bound, rfl⟩ := List.mem_map.1 asked
    obtain ⟨q, -, -, -, live⟩ := requests publication _ _ _ met bound
    exact ⟨_, met, bound, live.2 (by decide)⟩
  · -- The lost mount was taken down and made anew, and the pod's directory is there.
    obtain ⟨trace, tasks, m', reached, about⟩ : ∃ trace tasks m',
        Reaches handler [recover scope.root plan] m trace tasks m' ∧
        tasks[0]?.bind pending? = some (.bindMount globalMount
          "/k/pods/u/volumes/kubernetes.io~csi/b/mount"
          (podOptions plan ⟨"u", "y", false, []⟩)) :=
      ⟨_, _, _, reaches_takeTurns handler (List.replicate 8 0) _ m, by decide +kernel⟩
    obtain ⟨p, hp, about⟩ := Option.bind_eq_some_iff.1 about
    obtain ⟨next, rfl⟩ := exists_of_pending? about
    obtain ⟨_, planned, binds⟩ := passes scope session _ _ _ _ wf plans reached 0 _ _ _ next hp
    cases planned
    refine ⟨trace, tasks, m', _, next, reached, hp, ?_⟩
    rcases binds with ⟨-, -, healthy⟩ | ⟨pod, hpod, sub, hsub, -⟩
    · exact healthy
    · obtain rfl := List.mem_singleton.1 hpod
      cases hsub

/-- **Unchecked.** An unmounted directory is published to a pod. -/
theorem published_without_mount :
    let m : Machine := { Machine.ofBench .start with table := ⟨["/s"], []⟩ }
    let handler := Machine.handle Machine.fuseMount
    let after := (publication.answer ⟨[]⟩ ⟨"n", 0, []⟩).run.run handler m
    m.table.state "/s" = .empty ∧ after.1.isOk = true ∧
    after.2.table.state "/t" = .mounted .healthy ∧
    ¬ ∀ (clusters : Clusters) (info : Info) (m : Machine) (r : Node.Request) source target options
        met, m.Tells → (Node.Call.bindMount source target options, met) ∈
          (r.answer clusters info).run.met handler m →
        met.table.state source = .mounted .healthy := by
  intro m handler after
  refine ⟨by decide, by decide +kernel, by decide +kernel, fun claim => ?_⟩
  have bound : ∃ x ∈ (publication.answer ⟨[]⟩ ⟨"n", 0, []⟩).run.met handler m,
      x.1 = .bindMount "/s" "/t" (Service.publishOptions [] false) ∧
        x.2.table.state "/s" = .empty := by
    decide +kernel
  obtain ⟨⟨call, met⟩, hmet, rfl, unmounted⟩ := bound
  have live := claim ⟨[]⟩ ⟨"n", 0, []⟩ m publication _ _ _ met ⟨rfl, rfl⟩ hmet
  rw [unmounted] at live
  cases live

end FuseVolumes.Recovery
