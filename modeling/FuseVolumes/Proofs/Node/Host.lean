import FuseVolumes.Proofs.Mount.Flags
import FuseVolumes.Proofs.Node.Effects

/-!
# What hosts do for a node

A host changes its mounts by several calls to the kernel, each of which may fail. Whatever fails,
all that the calls change together is what a node reckons with (`hostEffects`). Directories are made
from the top, so that some may be there although the last one is not. A bind mount that is refused
its flags is taken back, and is stuck where it is busy. An unmount detaches what is busy.
-/

namespace FuseVolumes.Node

open Program Mount

/-- What calls to the kernel change. An unmount fails where nothing is mounted, or for another
reason where the mount is busy. -/
def kernelEffects (busy : String → Prop) : Effects Kernel.interface View
  | .device _, _, v, v' | .realPath _, _, v, v' | .mountList, _, v, v' | .readDirectory _, _, v, v'
  | .remount _ _ _, _, v, v' | .log _, _, v, v' => v' = v
  | .makeDirectories path, reply, v, v' => ∃ t, Paves path v.table t ∧
    v' = { v with table := t }.after (·.addDir path) reply
  | .bind _ target, reply, v, v' => v' = v.after (·.mountHealthy target) reply
  | .unmount target _, reply, v, v' => v' = v.after (·.removeMount target) reply ∧
    ∀ fault, reply = .error fault →
      v.table.mount? target = none ∨ busy target ∧ ¬ Kernel.isAbsence fault

variable {busy : String → Prop} {v : View}

theorem makeDirectory_host (path : String) (v : View) :
    (Kernel.makeDirectory path).run.Holds (kernelEffects busy) (fun _ _ => True)
      (fun reply v' => hostEffects busy (.makeDirectory path) reply v v') v :=
  ⟨trivial, fun _ _ made => made⟩

/-! ## Bind mounts -/

/-- A mount is taken back, or it is busy and the log tells so. -/
theorem undo_holds {target : String} (mounted : v.table.mount? target ≠ none) :
    (Kernel.undo target).Holds (kernelEffects busy) (fun _ _ => True)
      (fun _ v' => v' = { v with table := v.table.removeMount target } ∨ busy target ∧ v' = v)
      v := by
  refine ⟨trivial, ?_⟩
  rintro reply _ ⟨rfl, fails⟩
  match reply with
  | .ok () => exact .inl rfl
  | .error fault =>
    have kept := (fails fault rfl).resolve_left mounted
    exact ⟨trivial, fun _ _ told => .inr ⟨kept.1, told⟩⟩

theorem settle_holds {source target : String} {options : List String}
    (empty : v.table.state target = .empty) (reply : Except Fault Unit) :
    (Kernel.settle target options reply).Holds (kernelEffects busy) (fun _ _ => True)
      (fun reply v' => hostEffects busy (.bindMount source target options) reply v v')
      { v with table := v.table.mountHealthy target } := by
  match reply with
  | .ok () => exact .inl rfl
  | .error fault =>
    have mounted : (v.table.mountHealthy target).mount? target ≠ none := by simp
    refine holds_bind (undo_holds mounted) ?_
    rintro _ v' (taken | ⟨stays, kept⟩)
    · rw [Table.removeMount_mountHealthy empty] at taken
      exact .inl taken
    · exact .inr ⟨stays, trivial, kept⟩

/-- A node binds on empty directories only: it makes a path ready before it mounts there. -/
theorem bindMount_host (source target : String) (options : List String)
    (empty : v.table.state target = .empty) :
    (Kernel.bindMount source target options).run.Holds (kernelEffects busy) (fun _ _ => True)
      (fun reply v' => hostEffects busy (.bindMount source target options) reply v v') v := by
  rw [Kernel.bindMount_run]
  refine ⟨trivial, ?_⟩
  rintro reply _ rfl
  match reply with
  | .error fault => exact .inl rfl
  | .ok () =>
    dsimp only
    split
    · exact .inl rfl
    · refine ⟨trivial, ?_⟩
      rintro reply _ rfl
      exact settle_holds empty reply

/-! ## Unmounts -/

/-- What is not mounted is as good as taken down. -/
theorem unmount_host (path : String) (v : View) :
    (Kernel.unmount path).run.Holds (kernelEffects busy) (fun _ _ => True)
      (fun reply v' => hostEffects busy (.unmount path) reply v v') v := by
  refine holds_request_bind trivial ?_
  rintro reply _ ⟨rfl, fails⟩
  match reply with
  | .ok () => rfl
  | .error fault =>
    dsimp only
    split
    · refine holds_request_bind trivial ?_
      rintro _ _ rfl
      refine holds_orFail ⟨trivial, ?_⟩
      rintro reply _ ⟨rfl, -⟩
      cases reply <;> rfl
    next absent =>
      have none : v.table.mount? path = none :=
        (fails fault rfl).resolve_right fun other => other.2 (by simpa using absent)
      change v = { v with table := v.table.removeMount path }
      rw [Table.removeMount_of_none none]

end FuseVolumes.Node
