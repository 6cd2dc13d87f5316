import FuseVolumes.Proofs.Node.Contract
import FuseVolumes.Proofs.Program.Told
import FuseVolumes.Proofs.Recovery.Layout

/-!
How the task of a volume ends. Pods are mended elsewhere and under no name, so what is seen of the
volume's name and of its mount on the node is decided before (`recover_holds`). The task skips the
volume if and only if the name was taken (`recover_skips`), fails if and only if it was hindered on
its way to the mount (`recover_fails`), and leaves a mount that answers if the volume is recovered
(`recover_mounts`).
-/

namespace FuseVolumes.Recovery

open Program Node Mount

variable {root : String} {plan : Plan}

/-! ## Tasks -/

/-- What work under the name of a volume is counted as. -/
def Outcome.ofWork : Except Error Unit → Outcome
  | .ok () => recovered
  | .error _ => failed

theorem Outcome.ofWork_eq_failed_iff {result : Except Error Unit} :
    ofWork result = failed ↔ ∃ e, result = .error e := by
  cases result with
  | ok _ => exact iff_of_false nofun nofun
  | error e => exact iff_of_true rfl ⟨e, rfl⟩

theorem Outcome.ofWork_eq_recovered_iff {result : Except Error Unit} :
    ofWork result = recovered ↔ result = .ok () := by
  cases result with
  | ok _ => exact iff_of_true rfl rfl
  | error e => exact iff_of_false nofun nofun

theorem Outcome.ofWork_ne_skipped (result : Except Error Unit) : ofWork result ≠ skipped := by
  cases result <;> nofun

/-- The paths of all mounts of the pods. -/
def Plan.podPaths (root : String) (plan : Plan) : List String :=
  plan.pods.flatMap (Recovery.podPaths root plan.persistentVolume)

theorem Plan.globalMount_not_mem_podPaths (root : String) (plan : Plan) (volume : String) :
    Kubelet.globalMount root volume ∉ plan.podPaths root := by
  intro h
  obtain ⟨pod, -, h⟩ := List.mem_flatMap.1 h
  exact Recovery.globalMount_not_mem_podPaths _ _ _ _ h

/-- **Rule.** Where mending pods changes nothing of the view, a task ends as it stands once the
global mount is restored. -/
theorem recover_holds {τ : Type} {effects : Effects Node.interface τ}
    {wanted : Outcome → τ → Prop} {v : τ} (between : Except Error Unit → τ → Prop)
    (pods : ∀ call reply v v', (Footprint.ofPaths (plan.podPaths root)).Covers call →
      effects call reply v v' → v' = v)
    (refused : ∀ v', effects (.reserve plan.volume.id) false v v' → wanted .skipped v')
    (granted : ∀ v', effects (.reserve plan.volume.id) true v v' →
      (restore (Kubelet.globalMount root plan.persistentVolume)
        (fuseVolume root plan)).run.Holds effects (fun _ _ => True) between v')
    (released : ∀ result v v', between result v → effects (.release plan.volume.id) () v v' →
      wanted (.ofWork result) v') :
    (recover root plan).Holds effects (fun _ _ => True) wanted v := by
  have quiet {event : Event} {reply : Unit} {v v' : τ} (h : effects (.log event) reply v v') :
      v' = v :=
    pods (.log event) reply v v' trivial h
  rw [recover_eq]
  refine ⟨trivial, fun taken v₁ reserved => ?_⟩
  cases taken with
  | false =>
    refine ⟨trivial, fun _ v₂ told => ?_⟩
    rw [quiet told]
    exact refused v₁ reserved
  | true =>
    have mended : (mendVolume root plan).run.Holds effects (fun _ _ => True) between v₁ := by
      rw [mendVolume_eq]
      refine holds_run_bind (granted v₁ reserved) (fun _ v₂ restored => holds_liftM ?_)
        fun _ _ h => h
      refine (holds_of_spared (mendPods_within root plan plan.pods)
        fun call reply v₃ => pods call reply v₂ v₃).mono ?_
      rintro _ _ rfl
      exact restored
    refine holds_bind mended fun result v₂ h => ⟨trivial, fun _ v₃ given => ?_⟩
    have ended := released result v₂ v₃ h given
    cases result with
    | ok _ => exact ended
    | error e =>
      refine ⟨trivial, fun _ v₄ told => ?_⟩
      rw [quiet told]
      exact ended

/-! ## Names -/

/-- What requests do to a name, whatever fails. -/
abbrev faultyEffectsOn (name : String) : Effects Node.interface Bool :=
  seen (fun v : View => v.names.isReserved name) faultyEffects

/-- Whatever fails, a volume is skipped by its task if and only if its name was taken. -/
theorem recover_skips (root : String) (plan : Plan) (taken : Bool) :
    (recover root plan).Holds (faultyEffectsOn plan.volume.id) (fun _ _ => True)
      (fun outcome _ => outcome = .skipped ↔ taken = true) taken := by
  refine recover_holds (fun _ _ => taken = false) ?_ ?_ ?_ ?_
  · rintro call reply _ _ covered ⟨v, v', rfl, rfl, h⟩
    obtain ⟨_, h⟩ := exists_effect h
    exact reserved_of_covers h covered nofun
  · rintro _ ⟨v, v', rfl, rfl, told, -⟩
    exact iff_of_true rfl (by simpa using told.symm)
  · rintro _ ⟨v, v', rfl, rfl, told, -⟩
    refine (holds_of_obeys (obeys_trivial (fun _ _ => True) _) fun _ _ _ _ _ => trivial).mono ?_
    exact fun _ _ _ => by simpa using told
  · rintro result _ _ free -
    rw [free]
    exact iff_of_false (Outcome.ofWork_ne_skipped result) nofun

/-! ## Mounts -/

/-- What requests do to the mount on a path, whatever fails. -/
abbrev faultyEffectsAt (path : String) : Effects Node.interface (Option Health) :=
  seen (fun v : View => v.table.mount? path) faultyEffects

/-- A mount that is told of answers, even if looks at it may fail. -/
theorem ensure_tells_healthy (path : String) (mount? : Option Health) :
    (MountPoint.ensure path).run.Holds (faultyEffectsAt path) (fun _ _ => True)
      (fun result mount? => result = .ok true → mount? = some .healthy) mount? := by
  have down (mount? : Option Health) : (MountPoint.takeDown path).Holds (faultyEffectsAt path)
      (fun _ _ => True) (fun result mount? => result = .ok true → mount? = some .healthy)
      mount? := by
    refine ⟨trivial, fun _ _ _ => ⟨trivial, fun reply _ _ => ?_⟩⟩
    cases reply <;> nofun
  rw [MountPoint.ensure_run]
  refine ⟨trivial, ?_⟩
  rintro reply _ ⟨_, v, rfl, rfl, told, rfl⟩
  match reply with
  | .ok false => exact nofun
  | .ok true =>
    refine ⟨trivial, ?_⟩
    rintro reply _ ⟨_, v', same, rfl, told', rfl⟩
    match reply with
    | .error fault => exact ⟨trivial, fun _ _ _ => down _⟩
    | .ok () =>
      intro _
      obtain ⟨health, mounted⟩ := Table.mounted_of_isMountPoint (told.resolve_right nofun).symm
      have mounted' : v'.table.mount? path = some health := same.trans mounted
      exact mounted'.trans
        (congrArg some (Table.healthy_of_probe mounted' (told'.resolve_right nofun).symm))
  | .error fault =>
    dsimp only
    split
    · refine ⟨trivial, fun reply _ _ => ?_⟩
      cases reply <;> nofun
    · split
      · exact down _
      · exact nofun

/-- A global mount that was restored answers. -/
theorem restoreGlobal_mounts (root : String) (plan : Plan) (mount? : Option Health) :
    (restore (Kubelet.globalMount root plan.persistentVolume) (fuseVolume root plan)).run.Holds
      (faultyEffectsAt (Kubelet.globalMount root plan.persistentVolume)) (fun _ _ => True)
      (fun result mount? => result = .ok () → mount? = some .healthy) mount? := by
  rw [restore_run]
  refine holds_bind (ensure_tells_healthy _ mount?) fun answer mount? ready => ?_
  match answer with
  | .ok true => exact fun _ => ready rfl
  | .ok false =>
    refine ⟨trivial, fun _ _ _ => ⟨trivial, ?_⟩⟩
    rintro reply _ ⟨v, _, rfl, rfl, rfl⟩
    cases reply with
    | error e => exact nofun
    | ok _ => exact fun _ => Table.mount?_mountHealthy _ _
  | .error e => exact nofun

/-- Whatever fails, a volume is not counted as recovered unless a mount answers on the node. -/
theorem recover_mounts (root : String) (plan : Plan) (mount? : Option Health) :
    (recover root plan).Holds (faultyEffectsAt (Kubelet.globalMount root plan.persistentVolume))
      (fun _ _ => True) (fun outcome mount? => outcome = .recovered → mount? = some .healthy)
      mount? := by
  refine recover_holds (fun result mount? => result = .ok () → mount? = some .healthy) ?_ ?_ ?_ ?_
  · rintro call reply _ _ covered ⟨v, v', rfl, rfl, h⟩
    obtain ⟨_, h⟩ := exists_effect h
    exact Table.mount?_congr (spot_of_covers h covered (plan.globalMount_not_mem_podPaths root _))
  · exact nofun
  · exact fun mount? _ => restoreGlobal_mounts root plan mount?
  · rintro result _ _ restored ⟨v, _, rfl, rfl, rfl⟩ recovered
    exact restored (Outcome.ofWork_eq_recovered_iff.1 recovered)

/-! ## Hindrances -/

/-- Replies that keep a path from being made ready, or a volume from being mounted on it. -/
def Hinders (path : String) : (call : Node.Call) → call.Reply → Prop
  | .isMountPoint other, reply => other = path ∧
    ∃ fault, reply = .error fault ∧ fault ≠ .notFound ∧ fault.isCorruption = false
  | .makeDirectory other, reply => other = path ∧ ∃ fault, reply = .error fault
  | .unmount other, reply => other = path ∧ ∃ e, reply = .error e
  | .fuseMount _ other _, reply => other = path ∧ ∃ e, reply = .error e
  | _, _ => False

theorem not_hinders_of_covers {f : Footprint} {path : String} {call : Node.Call}
    {reply : call.Reply} (covered : f.Covers call) (apart : ¬ f.paths path) :
    ¬ Hinders path call reply := by
  cases call with
  | isMountPoint other | makeDirectory other | unmount other =>
    rintro ⟨rfl, -⟩
    exact apart covered
  | fuseMount volume other secrets =>
    rintro ⟨rfl, -⟩
    exact apart covered
  | _ => exact id

/-- A path is not made ready if and only if something hinders that. -/
theorem ensure_hindered (path : String) :
    (MountPoint.ensure path).run.Holds (noting (Hinders path)) (fun _ _ => True)
      (fun result hindered => hindered ↔ ∃ e, result = .error e) False := by
  have down : (MountPoint.takeDown path).Holds (noting (Hinders path)) (fun _ _ => True)
      (fun result hindered => hindered ↔ ∃ e, result = .error e) False := by
    refine ⟨trivial, fun _ _ told => ⟨trivial, fun reply _ h => ?_⟩⟩
    rw [noted_eq told id] at h
    refine (noted_iff h id).trans ?_
    rw [exists_map_iff, exists_mapError_iff]
    simp [Hinders]
  rw [MountPoint.ensure_run]
  refine ⟨trivial, fun reply _ h => ?_⟩
  cases reply with
  | ok mounted =>
    cases mounted with
    | false => exact (noted_iff h id).trans (by simp [Hinders])
    | true =>
      rw [noted_eq h (by simp [Hinders])]
      refine ⟨trivial, fun reply _ h => ?_⟩
      rw [noted_eq h id]
      cases reply with
      | ok _ => exact iff_of_false id (by rintro ⟨_, ⟨⟩⟩)
      | error fault =>
        refine ⟨trivial, fun _ _ told => ?_⟩
        rw [noted_eq told id]
        exact down
  | error fault =>
    dsimp only
    split
    next missing =>
      rw [noted_eq h (by simp [Hinders, missing])]
      refine ⟨trivial, fun reply _ h => (noted_iff h id).trans ?_⟩
      rw [exists_map_iff, exists_mapError_iff]
      simp [Hinders]
    next present =>
      split
      next corrupted =>
        rw [noted_eq h (by simp [Hinders, corrupted])]
        exact down
      next intact => exact (noted_iff h id).trans (by simpa [Hinders, present] using intact)

/-- Whatever its pods come to, a volume fails if and only if something hinders it from being mounted
on the node. -/
theorem recover_fails (root : String) (plan : Plan) :
    (recover root plan).Holds
      (noting (Hinders (Kubelet.globalMount root plan.persistentVolume))) (fun _ _ => True)
      (fun outcome hindered => outcome = .failed ↔ hindered) False := by
  refine recover_holds (fun result hindered => hindered ↔ ∃ e, result = .error e) ?_ ?_ ?_ ?_
  · intro call reply hindered hindered' covered h
    exact noted_eq h (not_hinders_of_covers covered (plan.globalMount_not_mem_podPaths root _))
  · intro hindered h
    rw [noted_eq h id]
    exact iff_of_false nofun id
  · intro hindered h
    rw [noted_eq h id, restore_run]
    refine holds_bind (ensure_hindered _) fun answer hindered ready => ?_
    match answer with
    | .ok true => exact ready.trans (iff_of_false nofun nofun)
    | .ok false =>
      refine ⟨trivial, fun _ _ told => ⟨trivial, fun reply _ h => ?_⟩⟩
      rw [noted_eq told id] at h
      refine (noted_iff h (by simp [ready])).trans ?_
      exact (and_iff_right rfl).trans exists_mapError_iff.symm
    | .error e => exact ready.trans (iff_of_true ⟨_, rfl⟩ ⟨_, rfl⟩)
  · intro result hindered hindered' restored given
    rw [noted_eq given id]
    exact Outcome.ofWork_eq_failed_iff.trans restored.symm

end FuseVolumes.Recovery
