import FuseVolumes.Recovery.Task
import FuseVolumes.Proofs.Node.MountPoint

/-!
What the task of a volume asks the node for. Every mount of a volume is restored by the same steps
(`restore`), with work of its own that mounts on the path and nothing else (`MountsOn`). What holds
of restoring each mount holds of the whole task (`Compositional.recoverReserved`), and a mount that
is owed by one step is owed by the task (`recoverReserved_owes`).
-/

namespace FuseVolumes.Recovery

open Program Node

/-! ## Single mounts -/

/-- Mounts on a path unless a mount there answers. -/
def restore (path : String) (mount : Mending Unit) : Mending Unit := do
  if ! (← atMountPoint (MountPoint.ensure path)) then mount

/-- Work whose failure is told and no more. -/
def attempt (work : Mending Unit) (words : Error → Event) : Program Node.interface Unit :=
  work.run.bind fun
    | .ok () => .done ()
    | .error e => tell (words e)

theorem restore_run (path : String) (mount : Mending Unit) :
    (restore path mount).run = (MountPoint.ensure path).run.bind fun
      | .ok true => .done (.ok ())
      | .ok false => mount.run
      | .error e => .done (.error (.mountPoint e)) := by
  change ((((MountPoint.ensure path).run.bind _)).bind _) = _
  rw [bind_assoc]
  congr 1
  funext answer
  match answer with
  | .ok true => rfl
  | .ok false => rfl
  | .error e => rfl

/-! ## Tasks in parts -/

/-- The bind mount of a path below a pod's mount. -/
def bindSub (root target : String) (pod : PodMount) (sub : SubMount) : Mending Unit :=
  bindMount (Path.join target sub.subPath)
    (Kubelet.subPath root pod.uid pod.volume sub.container sub.index) ["bind"]

/-- The bind mount of a pod. -/
def bindPod (root : String) (plan : Plan) (pod : PodMount) : Mending Unit := do
  bindMount (Kubelet.globalMount root plan.persistentVolume)
    (Kubelet.podVolume root pod.uid plan.persistentVolume) (podOptions plan pod)
  tell <| (Event.info .recovery "Restored pod mount").beside
    [("pod.uid", pod.uid), ("path", Kubelet.podVolume root pod.uid plan.persistentVolume)]

/-- The fuse mount of a volume. -/
def fuseVolume (root : String) (plan : Plan) : Mending Unit := do
  tell <| (Event.info .recovery "Remounting global mount").beside
    [("path", Kubelet.globalMount root plan.persistentVolume)]
  (Node.ask (.fuseMount plan.volume (Kubelet.globalMount root plan.persistentVolume)
    plan.secrets)).orFail .engine

theorem mendSubMounts_cons (root target : String) (pod : PodMount) (sub : SubMount)
    (rest : List SubMount) :
    mendSubMounts root target pod (sub :: rest) =
      (attempt (restore (Kubelet.subPath root pod.uid pod.volume sub.container sub.index)
          (bindSub root target pod sub))
        fun e => (Event.error .recovery "Failed to recover sub-path mount").beside
          [("pod.uid", pod.uid), ("container", sub.container), ("error", e.message)]).bind
      fun _ => mendSubMounts root target pod rest := by
  rw [mendSubMounts, attempt, Program.bind_assoc]
  change Program.bind _ _ = Program.bind _ _
  congr 1
  funext result
  cases result <;> rfl

theorem mendPod_eq (root : String) (plan : Plan) (pod : PodMount) :
    mendPod root plan pod =
      restore (Kubelet.podVolume root pod.uid plan.persistentVolume) (bindPod root plan pod) >>=
        fun _ => liftM (mendSubMounts root (Kubelet.podVolume root pod.uid plan.persistentVolume)
          pod pod.subMounts) := by
  rw [mendPod, restore, LawfulMonad.bind_assoc]
  congr 1
  funext found
  cases found <;> simp [bindPod]

theorem mendPods_cons (root : String) (plan : Plan) (pod : PodMount) (rest : List PodMount) :
    mendPods root plan (pod :: rest) =
      (attempt (mendPod root plan pod) fun e =>
        (Event.error .recovery "Failed to recover pod mount").beside
          [("pod.uid", pod.uid), ("error", e.message)]).bind fun _ => mendPods root plan rest := by
  rw [mendPods, attempt, Program.bind_assoc]
  change Program.bind _ _ = Program.bind _ _
  congr 1
  funext result
  cases result <;> rfl

theorem mendVolume_eq (root : String) (plan : Plan) :
    mendVolume root plan =
      restore (Kubelet.globalMount root plan.persistentVolume) (fuseVolume root plan) >>=
        fun _ => liftM (mendPods root plan plan.pods) := by
  rw [mendVolume, restore, LawfulMonad.bind_assoc]
  congr 1
  funext found
  cases found <;> simp [fuseVolume]

/-- What is done once the name of the volume is reserved. -/
def recoverReserved (root : String) (plan : Plan) : Program Node.interface Outcome :=
  (mendVolume root plan).run.bind fun result =>
    .ask (I := Node.interface) (.release plan.volume.id) fun _ =>
      match result with
      | .ok () => .done .recovered
      | .error e =>
        .ask (I := Node.interface) (.log ((Event.error .recovery "Failed to recover volume").beside
          [("pv", plan.persistentVolume), ("error", e.message)])) fun _ => .done .failed

theorem recover_eq (root : String) (plan : Plan) :
    recover root plan = .ask (I := Node.interface) (.reserve plan.volume.id) fun taken =>
      if taken then recoverReserved root plan
      else .ask (I := Node.interface) (.log (.warn .recovery "Volume is busy, skipping"))
        fun _ => .done .skipped := rfl

/-! ## Mounts of a plan -/

/-- The paths of a pod's mounts: of its own, and of those below it. -/
def podPaths (root volume : String) (pod : PodMount) : List String :=
  Kubelet.podVolume root pod.uid volume ::
    pod.subMounts.map fun sub => Kubelet.subPath root pod.uid pod.volume sub.container sub.index

/-- The paths of all mounts of a volume. -/
def Plan.paths (root : String) (plan : Plan) : List String :=
  Kubelet.globalMount root plan.persistentVolume ::
    plan.pods.flatMap (podPaths root plan.persistentVolume)

/-- The mounts below a pod's mount with the work that makes them. -/
def subWorks (root target : String) (pod : PodMount) (subs : List SubMount) :
    List (String × Mending Unit) :=
  subs.map fun sub => (Kubelet.subPath root pod.uid pod.volume sub.container sub.index,
    bindSub root target pod sub)

/-- The mounts of a pod with the work that makes them. -/
def podWorks (root : String) (plan : Plan) (pod : PodMount) : List (String × Mending Unit) :=
  (Kubelet.podVolume root pod.uid plan.persistentVolume, bindPod root plan pod) ::
    subWorks root (Kubelet.podVolume root pod.uid plan.persistentVolume) pod pod.subMounts

/-- The mounts of a volume with the work that makes them. -/
def Plan.works (root : String) (plan : Plan) : List (String × Mending Unit) :=
  (Kubelet.globalMount root plan.persistentVolume, fuseVolume root plan) ::
    plan.pods.flatMap (podWorks root plan)

theorem Plan.global_mem_works (root : String) (plan : Plan) :
    (Kubelet.globalMount root plan.persistentVolume, fuseVolume root plan) ∈ plan.works root :=
  List.mem_cons_self

theorem Plan.pod_mem_works (root : String) {plan : Plan} {pod : PodMount} (h : pod ∈ plan.pods) :
    (Kubelet.podVolume root pod.uid plan.persistentVolume, bindPod root plan pod) ∈
      plan.works root :=
  List.mem_cons_of_mem _ (List.mem_flatMap.2 ⟨pod, h, List.mem_cons_self⟩)

theorem podWorks_paths (root : String) (plan : Plan) (pod : PodMount) :
    (podWorks root plan pod).map (·.1) = podPaths root plan.persistentVolume pod := by
  simp [podWorks, subWorks, podPaths, Function.comp_def]

theorem Plan.works_paths (root : String) (plan : Plan) :
    (plan.works root).map (·.1) = plan.paths root := by
  simp only [works, paths, List.map_cons, List.map_flatMap, podWorks_paths]

/-- Work that mounts on a path, tells of it, and does nothing else. -/
structure MountsOn (path : String) (work : Mending Unit) : Prop where
  within : work.run.Within fun call => Mounts path call ∨ ∃ event, call = Node.Call.log event
  owes : ∀ fair, work.run.Owes fair (Mounts path)
  succeeds : work.run.Obeys Faultless (fun _ => True) (· = .ok ())

theorem bindSub_mountsOn (root target : String) (pod : PodMount) (sub : SubMount) :
    MountsOn (Kubelet.subPath root pod.uid pod.volume sub.container sub.index)
      (bindSub root target pod sub) where
  within := ⟨.inl rfl, fun _ _ => trivial⟩
  owes _ := .inl rfl
  succeeds := ⟨trivial, fun reply hr => by rw [show reply = .ok () from hr]; rfl⟩

theorem bindPod_mountsOn (root : String) (plan : Plan) (pod : PodMount) :
    MountsOn (Kubelet.podVolume root pod.uid plan.persistentVolume) (bindPod root plan pod) where
  within := by
    refine ⟨.inl rfl, fun reply _ => ?_⟩
    match reply with
    | .ok () => exact ⟨.inr ⟨_, rfl⟩, fun _ _ => trivial⟩
    | .error e => trivial
  owes _ := .inl rfl
  succeeds := by
    refine ⟨trivial, fun reply hr => ?_⟩
    rw [show reply = .ok () from hr]
    exact ⟨trivial, fun _ _ => rfl⟩

theorem fuseVolume_mountsOn (root : String) (plan : Plan) :
    MountsOn (Kubelet.globalMount root plan.persistentVolume) (fuseVolume root plan) where
  within := ⟨.inr ⟨_, rfl⟩, fun _ _ => ⟨.inl rfl, fun _ _ => trivial⟩⟩
  owes _ := .inr fun _ _ => .inl rfl
  succeeds :=
    ⟨trivial, fun _ _ => ⟨trivial, fun reply hr => by rw [show reply = .ok () from hr]; rfl⟩⟩

theorem mountsOn_of_mem_podWorks {root : String} {plan : Plan} {pod : PodMount}
    {r : String × Mending Unit} (h : r ∈ podWorks root plan pod) : MountsOn r.1 r.2 := by
  rcases List.mem_cons.1 h with rfl | h
  · exact bindPod_mountsOn root plan pod
  · obtain ⟨sub, -, rfl⟩ := List.mem_map.1 h
    exact bindSub_mountsOn _ _ pod sub

theorem Plan.mountsOn_of_mem_works {root : String} {plan : Plan} {r : String × Mending Unit}
    (h : r ∈ plan.works root) : MountsOn r.1 r.2 := by
  rcases List.mem_cons.1 h with rfl | h
  · exact fuseVolume_mountsOn root plan
  · obtain ⟨pod, -, h⟩ := List.mem_flatMap.1 h
    exact mountsOn_of_mem_podWorks h

/-! ## Restoring one mount -/

section Restore

variable {path : String} {mount : Mending Unit} {t : Mount.Table}

theorem restore_within (hm : MountsOn path mount) :
    (restore path mount).run.Within (Footprint.one path).Covers := by
  rw [restore_run]
  refine within_bind (MountPoint.ensure_within path) fun answer => ?_
  match answer with
  | .ok true => trivial
  | .ok false =>
    refine hm.within.mono ?_
    rintro call (h | ⟨event, rfl⟩)
    · cases call <;> first | exact h | exact h.elim
    · trivial
  | .error e => trivial

theorem restore_succeeds (hm : MountsOn path mount) :
    (restore path mount).run.Obeys Faultless (fun _ => True) (· = .ok ()) := by
  rw [restore_run]
  refine obeys_bind ((MountPoint.ensure_tells path).mono (fun _ _ h => h) (fun _ _ => trivial)
    fun _ h => h) ?_
  rintro _ ⟨found, rfl⟩
  cases found with
  | true => rfl
  | false => exact hm.succeeds

/-- Where a mount answers nothing is done. -/
theorem restore_idle (h : t.state path = .mounted .healthy) :
    (restore path mount).run.Obeys (Shows t path) Idle (· = .ok ()) := by
  rw [restore_run]
  refine obeys_bind (MountPoint.ensure_healthy h) ?_
  rintro _ rfl
  rfl

/-- Where no mount answers the path is mounted on. -/
theorem restore_owes (hm : MountsOn path mount) (h : t.state path ≠ .mounted .healthy) :
    (restore path mount).run.Owes (FaultlessAt t path) (Mounts path) := by
  rw [restore_run]
  refine owes_bind_right (MountPoint.ensure_unhealthy h) ?_
  rintro _ rfl
  exact hm.owes _

/-- Whatever is cleared is mounted on. -/
theorem restore_follows (hm : MountsOn path mount) (other : String) :
    (restore path mount).run.Follows Faultless (Clears other) (Mounts other) := by
  rw [restore_run]
  refine MountPoint.ensure_bind_follows ?_ ?_
  · rintro rfl
    exact hm.owes _
  · intro found
    cases found with
    | true => trivial
    | false =>
      refine follows_of_within hm.within ?_
      rintro call (h | ⟨event, rfl⟩) hc
      · cases call <;> first | exact h.elim | exact hc.elim
      · exact hc.elim

end Restore

/-! ## Restoring all mounts -/

/-- A property that work has when its parts have it, and that telling of something does not
break. -/
structure Compositional (P : {α : Type} → Program Node.interface α → Prop) : Prop where
  done : ∀ {α : Type} (a : α), P (.done a)
  log : ∀ event, P (Node.log event)
  bind : ∀ {α β : Type} {p : Program Node.interface α} {f : α → Program Node.interface β},
    P p → (∀ a, P (f a)) → P (p.bind f)

section Walk

variable {P : {α : Type} → Program Node.interface α → Prop} {root : String} {plan : Plan}
  {pod : PodMount}

theorem Compositional.attempt (hP : Compositional P) {work : Mending Unit} {words : Error → Event}
    (h : P work.run) : P (attempt work words) := by
  refine hP.bind h fun result => ?_
  match result with
  | .ok () => exact hP.done ()
  | .error e => exact hP.log _

theorem Compositional.andThen (hP : Compositional P) {work : Mending Unit}
    {next : Program Node.interface Unit} (h : P work.run) (hn : P next) :
    P (work >>= fun _ => liftM next).run := by
  refine hP.bind h fun result => ?_
  match result with
  | .ok () => exact hP.bind hn fun _ => hP.done _
  | .error e => exact hP.done _

theorem Compositional.mendSubMounts (hP : Compositional P) (target : String)
    (subs : List SubMount) (h : ∀ r ∈ subWorks root target pod subs, P (restore r.1 r.2).run) :
    P (mendSubMounts root target pod subs) := by
  induction subs with
  | nil => exact hP.done ()
  | cons sub subs ih =>
    rw [subWorks, List.map_cons, List.forall_mem_cons] at h
    rw [mendSubMounts_cons]
    exact hP.bind (hP.attempt h.1) fun _ => ih h.2

theorem Compositional.mendPod (hP : Compositional P)
    (h : ∀ r ∈ podWorks root plan pod, P (restore r.1 r.2).run) :
    P (mendPod root plan pod).run := by
  rw [podWorks, List.forall_mem_cons] at h
  rw [mendPod_eq]
  exact hP.andThen h.1 (hP.mendSubMounts _ _ h.2)

theorem Compositional.mendPods (hP : Compositional P) (pods : List PodMount)
    (h : ∀ r ∈ pods.flatMap (podWorks root plan), P (restore r.1 r.2).run) :
    P (mendPods root plan pods) := by
  induction pods with
  | nil => exact hP.done ()
  | cons pod pods ih =>
    rw [List.flatMap_cons, List.forall_mem_append] at h
    rw [mendPods_cons]
    exact hP.bind (hP.attempt (hP.mendPod h.1)) fun _ => ih h.2

theorem Compositional.mendVolume (hP : Compositional P)
    (h : ∀ r ∈ plan.works root, P (restore r.1 r.2).run) : P (mendVolume root plan).run := by
  rw [Plan.works, List.forall_mem_cons] at h
  rw [mendVolume_eq]
  exact hP.andThen h.1 (hP.mendPods _ h.2)

/-- **Walk.** What restoring each mount has, and giving the name back, the work on the whole volume
has. -/
theorem Compositional.recoverReserved (hP : Compositional P)
    (h : ∀ r ∈ plan.works root, P (restore r.1 r.2).run)
    (hrelease : P (Node.ask (.release plan.volume.id))) : P (recoverReserved root plan) := by
  refine hP.bind (hP.mendVolume h) fun result => hP.bind hrelease fun _ => ?_
  match result with
  | .ok () => exact hP.done _
  | .error e => exact hP.bind (hP.log _) fun _ => hP.done _

end Walk

theorem obeys_compositional {fair : (call : Node.Call) → call.Reply → Prop}
    {allowed : Node.Call → Prop} (hlog : ∀ event, allowed (.log event)) :
    Compositional fun p => p.Obeys fair allowed fun _ => True where
  done _ := trivial
  log event := ⟨hlog event, fun _ _ => trivial⟩
  bind hp hf := obeys_bind hp fun a _ => hf a

theorem recoverReserved_within {allowed : Node.Call → Prop}
    (hrelease : allowed (.release plan.volume.id))
    (h : ∀ path ∈ plan.paths root, ∀ call, (Footprint.one path).Covers call → allowed call) :
    (recoverReserved root plan).Within allowed := by
  have hlog (event : Event) : allowed (.log event) :=
    h _ List.mem_cons_self _ trivial
  refine (obeys_compositional hlog).recoverReserved (fun r hr => ?_) ⟨hrelease, fun _ _ => trivial⟩
  refine (restore_within (Plan.mountsOn_of_mem_works hr)).mono (h r.1 ?_)
  rw [← Plan.works_paths]
  exact List.mem_map_of_mem hr

theorem follows_compositional {fair : (call : Node.Call) → call.Reply → Prop}
    {trigger goal : Node.Call → Prop} (hlog : ∀ event, ¬ trigger (.log event)) :
    Compositional fun p => p.Follows fair trigger goal where
  done _ := trivial
  log event := fun _ _ => ⟨fun ht => absurd ht (hlog event), trivial⟩
  bind hp hf := follows_bind hp (obeys_trivial _ _) fun a _ => hf a

/-- A volume is recovered once its global mount is there, whatever becomes of its pods. -/
theorem recoverReserved_recovers {fair : (call : Node.Call) → call.Reply → Prop}
    {allowed : Node.Call → Prop} {root : String} {plan : Plan}
    (hlog : ∀ event, allowed (.log event)) (hrelease : allowed (.release plan.volume.id))
    (h : ∀ r ∈ plan.works root, (restore r.1 r.2).run.Obeys fair allowed (· = .ok ())) :
    (recoverReserved root plan).Obeys fair allowed (· = .recovered) := by
  have global := h _ (plan.global_mem_works root)
  have pods : (mendPods root plan plan.pods).Obeys fair allowed fun _ => True := by
    refine (obeys_compositional hlog).mendPods _ fun r hr => ?_
    exact (h r (List.mem_cons_of_mem _ hr)).mono (fun _ _ h => h) (fun _ h => h) fun _ _ => trivial
  have volume : (mendVolume root plan).run.Obeys fair allowed (· = .ok ()) := by
    rw [mendVolume_eq]
    refine obeys_run_bind global (fun _ _ => obeys_liftM ?_) fun _ h => h
    exact pods.mono (fun _ _ h => h) (fun _ h => h) fun _ _ => rfl
  refine obeys_bind volume ?_
  rintro _ rfl
  exact ⟨hrelease, fun _ _ => rfl⟩

/-! ## Debts of a task -/

section Debts

variable {fair : (call : Node.Call) → call.Reply → Prop} {goal : Node.Call → Prop}
  {root : String} {plan : Plan} {pod : PodMount}

theorem attempt_owes {work : Mending Unit} {words : Error → Event}
    (hw : work.run.Owes fair goal) : (attempt work words).Owes fair goal :=
  owes_bind_left hw

theorem mendSubMounts_owes (target : String) (subs : List SubMount)
    (h : ∃ r ∈ subWorks root target pod subs, (restore r.1 r.2).run.Owes fair goal) :
    (mendSubMounts root target pod subs).Owes fair goal := by
  obtain ⟨r, hr, h⟩ := h
  induction subs with
  | nil => cases hr
  | cons sub subs ih =>
    rw [mendSubMounts_cons]
    rcases List.mem_cons.1 hr with rfl | hr
    · exact owes_bind_left (attempt_owes h)
    · exact owes_bind_right (obeys_trivial _ _) fun _ _ => ih hr

/-- A mount that always succeeds holds up no debt behind it. -/
theorem owes_run_bind {work : Mending Unit} {next : Unit → Mending Unit}
    (hw : work.run.Obeys fair (fun _ => True) (· = .ok ())) (hn : (next ()).run.Owes fair goal) :
    (work >>= next).run.Owes fair goal := by
  refine owes_bind_right hw ?_
  rintro _ rfl
  exact hn

theorem mendPod_owes
    (hown : (restore (Kubelet.podVolume root pod.uid plan.persistentVolume)
      (bindPod root plan pod)).run.Obeys fair (fun _ => True) (· = .ok ()))
    (h : ∃ r ∈ podWorks root plan pod, (restore r.1 r.2).run.Owes fair goal) :
    (mendPod root plan pod).run.Owes fair goal := by
  obtain ⟨r, hr, h⟩ := h
  rw [mendPod_eq]
  rcases List.mem_cons.1 hr with rfl | hr
  · exact owes_bind_left h
  · exact owes_run_bind hown (owes_bind_left (mendSubMounts_owes _ _ ⟨r, hr, h⟩))

theorem mendPods_owes (pods : List PodMount)
    (hown : ∀ pod ∈ pods, (restore (Kubelet.podVolume root pod.uid plan.persistentVolume)
      (bindPod root plan pod)).run.Obeys fair (fun _ => True) (· = .ok ()))
    (h : ∃ r ∈ pods.flatMap (podWorks root plan), (restore r.1 r.2).run.Owes fair goal) :
    (mendPods root plan pods).Owes fair goal := by
  obtain ⟨r, hr, h⟩ := h
  induction pods with
  | nil => cases hr
  | cons pod pods ih =>
    rw [List.forall_mem_cons] at hown
    rw [mendPods_cons]
    rw [List.flatMap_cons, List.mem_append] at hr
    rcases hr with hr | hr
    · exact owes_bind_left (attempt_owes (mendPod_owes hown.1 ⟨r, hr, h⟩))
    · exact owes_bind_right (obeys_trivial _ _) fun _ _ => ih hown.2 hr

theorem recoverReserved_owes
    (hall : ∀ r ∈ plan.works root,
      (restore r.1 r.2).run.Obeys fair (fun _ => True) (· = .ok ()))
    (h : ∃ r ∈ plan.works root, (restore r.1 r.2).run.Owes fair goal) :
    (recoverReserved root plan).Owes fair goal := by
  obtain ⟨r, hr, h⟩ := h
  refine owes_bind_left ?_
  rw [mendVolume_eq]
  rcases List.mem_cons.1 hr with rfl | hr
  · exact owes_bind_left h
  · have global := hall _ (plan.global_mem_works root)
    have own (pod : PodMount) (hpod : pod ∈ plan.pods) := hall _ (Plan.pod_mem_works root hpod)
    exact owes_run_bind global (owes_bind_left (mendPods_owes _ own ⟨r, hr, h⟩))

end Debts

end FuseVolumes.Recovery
