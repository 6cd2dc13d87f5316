import FuseVolumes.Proofs.Node.Footprint
import FuseVolumes.Proofs.Path
import FuseVolumes.Proofs.Program.Effects

/-!
# What calls to a node change

A node tells the truth about what is mounted, and may fail at everything else. In a table
(`effects`) what fails changes nothing, but for a bind mount that is refused its flags: it is taken
back, and stays where that fails, too. A host (`hostEffects`) makes the missing directories above a
path along with it. A table that is told to fail behaves so, whatever is to fail
(`Machine.handle_behaves`).
-/

namespace FuseVolumes.Node

open Program Mount

/-! ## Effects of calls -/

/-- What requests see and change: the mounts, and the names in use. -/
structure View where
  table : Mount.Table
  names : Reservations

/-- The view after a change of the mounts that may fail. -/
def View.after {ε : Type} (v : View) (change : Table → Table) : Except ε Unit → View
  | .ok () => { v with table := change v.table }
  | .error _ => v

/-- A bind mount was made, but refused the flags that its options stand for. -/
def FlagsRefused : Except Mount.Error Unit → Prop
  | .error (.remount _ _ _) => True
  | .ok _ | .error (.bindMount _ _ _) | .error (.unmount _ _) => False

instance : DecidablePred FlagsRefused
  | .error (.remount _ _ _) => .isTrue trivial
  | .ok _ | .error (.bindMount _ _ _) | .error (.unmount _ _) => .isFalse id

/-- The effects on a table, which gets every directory alone, without those above it. What is
mounted is told as it is, and names are granted unless they are in use. Everything else may fail,
and what fails changes nothing, unless a bind mount was refused its flags and could not be taken
back. -/
def effects : Effects interface View
  | .reserve name, taken, v, v' =>
    taken = !v.names.isReserved name ∧ v' = { v with names := (v.names.tryAcquire name).2 }
  | .release name, _, v, v' => v' = { v with names := v.names.release name }
  | .log _, _, v, v' | .statFileSystem _, _, v, v' => v' = v
  | .isMountPoint path, reply, v, v' => reply = v.table.isMountPoint path ∧ v' = v
  | .probe path, reply, v, v' => reply = v.table.probe path ∧ v' = v
  | .makeDirectory path, reply, v, v' => v' = v.after (·.addDir path) reply
  | .bindMount _ target _, reply, v, v' =>
    v' = v.after (·.mountHealthy target) reply ∨
      FlagsRefused reply ∧ v' = { v with table := v.table.mountHealthy target }
  | .fuseMount _ target _, reply, v, v' => v' = v.after (·.mountHealthy target) reply
  | .unmount path, reply, v, v' => v' = v.after (·.removeMount path) reply
  | .removeDirectory path, reply, v, v' => v' = v ∨ v' = v.after (·.removeDir path) reply

/-- The same, but for looks at a mount that may fail, too. -/
def faultyEffects : Effects interface View
  | .isMountPoint path, reply, v, v' =>
    (reply = v.table.isMountPoint path ∨ ∃ fault, reply = .error fault) ∧ v' = v
  | .probe path, reply, v, v' =>
    (reply = v.table.probe path ∨ ∃ fault, reply = .error fault) ∧ v' = v
  | call, reply, v, v' => effects call reply v v'

/-- A look that fails changes no more than one that does not. -/
theorem exists_effect {call : Call} {reply : call.Reply} {v v' : View}
    (h : faultyEffects call reply v v') : ∃ reply, effects call reply v v' := by
  cases call with
  | isMountPoint path | probe path => exact ⟨_, rfl, h.2⟩
  | _ => exact ⟨reply, h⟩

theorem faultyEffects_of_effects {call : Call} {reply : call.Reply} {v v' : View}
    (h : effects call reply v v') : faultyEffects call reply v v' := by
  cases call with
  | isMountPoint path | probe path => exact ⟨.inl h.1, h.2⟩
  | _ => exact h

/-! ## Other paths -/

/-- Other paths are as they were. -/
def Elsewhere (path : String) (t t' : Table) : Prop :=
  ∀ other, other ≠ path → t'.spot other = t.spot other

section Elsewhere

variable {path : String} {t t' t'' : Table}

theorem Elsewhere.refl (path : String) (t : Table) : Elsewhere path t t := fun _ _ => rfl

theorem Elsewhere.trans (h : Elsewhere path t t') (h' : Elsewhere path t' t'') :
    Elsewhere path t t'' :=
  fun other ho => (h' other ho).trans (h other ho)

theorem elsewhere_addDir (path : String) (t : Table) : Elsewhere path t (t.addDir path) :=
  fun other ho => by rw [Table.spot_addDir, if_neg ho]

theorem elsewhere_removeDir (path : String) (t : Table) : Elsewhere path t (t.removeDir path) :=
  fun other ho => by rw [Table.spot_removeDir, if_neg ho]

theorem elsewhere_removeMount (path : String) (t : Table) :
    Elsewhere path t (t.removeMount path) :=
  fun other ho => by rw [Table.spot_removeMount, if_neg ho]

theorem elsewhere_mountHealthy (path : String) (t : Table) :
    Elsewhere path t (t.mountHealthy path) :=
  fun other ho => by rw [Table.spot_mountHealthy, if_neg ho]

end Elsewhere

section Effects

variable {path : String} {call : Call} {reply : call.Reply} {v v' : View}

/-- A bind mount changes nothing, or mounts on its target, whatever it answers. -/
theorem table_of_bindMount {source target : String} {options : List String}
    {reply : Except Mount.Error Unit}
    (h : effects (.bindMount source target options) reply v v') :
    v' = v ∨ v' = { v with table := v.table.mountHealthy target } := by
  rcases h with rfl | ⟨-, rfl⟩
  · cases reply with
    | ok _ => exact .inr rfl
    | error e => exact .inl rfl
  · exact .inr rfl

/-- Requests about other paths leave a path as it is. -/
theorem spot_of_covers {f : Footprint} (h : effects call reply v v') (covered : f.Covers call)
    (apart : ¬ f.paths path) : v'.table.spot path = v.table.spot path := by
  have other {target : String} (ht : f.paths target) : path ≠ target := by
    rintro rfl
    exact apart ht
  cases call with
  | reserve name => rw [h.2]
  | isMountPoint target | probe target => rw [h.2]
  | release name | log event => rw [show v' = _ from h]
  | makeDirectory target =>
    rw [show v' = _ from h]
    cases reply with
    | ok _ => exact elsewhere_addDir _ _ _ (other covered)
    | error e => rfl
  | unmount target =>
    rw [show v' = _ from h]
    cases reply with
    | ok _ => exact elsewhere_removeMount _ _ _ (other covered)
    | error e => rfl
  | bindMount source target options =>
    rcases table_of_bindMount h with rfl | rfl
    · rfl
    · exact elsewhere_mountHealthy _ _ _ (other covered)
  | fuseMount volume target secrets =>
    rw [show v' = _ from h]
    cases reply with
    | ok _ => exact elsewhere_mountHealthy _ _ _ (other covered)
    | error e => rfl
  | removeDirectory target | statFileSystem target => exact covered.elim

/-- Requests about other names leave a name as it is. -/
theorem reserved_of_covers {f : Footprint} {name : String} (h : effects call reply v v')
    (covered : f.Covers call) (apart : ¬ f.names name) :
    v'.names.isReserved name = v.names.isReserved name := by
  have other {target : String} (ht : f.names target) : name ≠ target := by
    rintro rfl
    exact apart ht
  have kept {ε : Type} (change : Table → Table) (reply : Except ε Unit) :
      (v.after change reply).names = v.names := by
    cases reply <;> rfl
  cases call with
  | reserve target =>
    rw [h.2, Reservations.isReserved_tryAcquire, beq_false_of_ne (other covered), Bool.false_or]
  | release target =>
    rw [show v' = _ from h, Reservations.isReserved_release, bne_iff_ne.2 (other covered),
      Bool.true_and]
  | isMountPoint target | probe target => rw [h.2]
  | log event => rw [show v' = _ from h]
  | makeDirectory target | unmount target => rw [show v' = _ from h, kept]
  | bindMount source target options => rcases table_of_bindMount h with rfl | rfl <;> rfl
  | fuseMount volume target secrets => rw [show v' = _ from h, kept]
  | removeDirectory target | statFileSystem target => exact covered.elim

/-- A mount that answers is there until it is taken down. -/
theorem healthy_of_spared (h : effects call reply v v')
    (healthy : v.table.mount? path = some .healthy) (spared : call ≠ .unmount path) :
    v'.table.mount? path = some .healthy := by
  have elsewhere {t : Table} {target : String} (ht : target ≠ path)
      (kept : Elsewhere target v.table t) : t.mount? path = some .healthy := by
    rw [Table.mount?_congr (kept path (Ne.symm ht)), healthy]
  have mounted (target : String) : (v.table.mountHealthy target).mount? path = some .healthy := by
    by_cases ht : target = path
    · rw [ht, Table.mount?_mountHealthy]
    · exact elsewhere ht (elsewhere_mountHealthy target v.table)
  cases call with
  | reserve name => rwa [h.2]
  | isMountPoint target | probe target => rwa [h.2]
  | release name | log event | statFileSystem target => rwa [show v' = _ from h]
  | makeDirectory target =>
    rw [show v' = _ from h]
    cases reply with
    | ok _ => exact (Table.mount?_addDir _ _ _).trans healthy
    | error e => exact healthy
  | removeDirectory target =>
    rcases h with rfl | rfl
    · exact healthy
    · cases reply <;> exact healthy
  | unmount target =>
    rw [show v' = _ from h]
    have ht : target ≠ path := fun same => spared (by rw [same])
    cases reply with
    | ok _ => exact elsewhere ht (elsewhere_removeMount target v.table)
    | error e => exact healthy
  | bindMount source target options =>
    rcases table_of_bindMount h with rfl | rfl
    · exact healthy
    · exact mounted target
  | fuseMount volume target secrets =>
    rw [show v' = _ from h]
    cases reply with
    | ok _ => exact mounted target
    | error e => exact healthy

end Effects

/-! ## Hosts -/

/-- Other paths are as they were, but the path may lead through new directories. -/
def Beside (path : String) (t t' : Table) : Prop :=
  ∀ other, other ≠ path → t'.spot other = t.spot other ∨
    Path.Above other path ∧ t'.spot other = (true, (t.spot other).2)

section Beside

variable {path other : String} {t t' t'' : Table}

theorem Elsewhere.beside (h : Elsewhere path t t') : Beside path t t' :=
  fun other ho => .inl (h other ho)

theorem Beside.refl (path : String) (t : Table) : Beside path t t := (Elsewhere.refl path t).beside

theorem Beside.trans (h : Beside path t t') (h' : Beside path t' t'') : Beside path t t'' := by
  intro other ho
  rcases h' other ho with same' | ⟨above, new'⟩
  · rw [same']
    exact h other ho
  · refine .inr ⟨above, ?_⟩
    rcases h other ho with same | ⟨-, new⟩
    · rw [new', same]
    · rw [new', new]

/-- What was mounted on a path stays when a directory is made there. -/
theorem Beside.mount? (h : Beside path t t') (ho : other ≠ path) :
    t'.mount? other = t.mount? other := by
  rcases h other ho with same | ⟨-, new⟩
  · exact Table.mount?_congr same
  · exact congrArg Prod.snd new

/-- A directory that is new was missing before. -/
theorem Beside.state (h : Beside path t t') (ho : other ≠ path) :
    t'.state other = t.state other ∨
      Path.Above other path ∧ t.state other = .absent ∧ t'.state other = .empty := by
  rcases h other ho with same | ⟨above, new⟩
  · exact .inl (Table.state_congr same)
  · rw [Table.state_eq, Table.state_eq, new]
    match t.spot other with
    | (_, some health) => exact .inl rfl
    | (true, none) => exact .inl rfl
    | (false, none) => exact .inr ⟨above, rfl, rfl⟩

end Beside

/-- Directories are made that the path leads through, and nothing else is changed. -/
structure Paves (path : String) (t t' : Table) : Prop where
  beside : Beside path t t'
  itself : t'.spot path = t.spot path

/-- The effects on a host. The missing directories that a path leads through are made first, and may
be there although the path itself could not be made. Bind mounts that were refused their flags stay
on no targets but `stuck` ones. -/
def hostEffects (stuck : String → Prop) : Effects interface View
  | .makeDirectory path, reply, v, v' => ∃ t, Paves path v.table t ∧
    v' = { v with table := t }.after (·.addDir path) reply
  | .bindMount _ target _, reply, v, v' =>
    v' = v.after (·.mountHealthy target) reply ∨
      stuck target ∧ FlagsRefused reply ∧ v' = { v with table := v.table.mountHealthy target }
  | call, reply, v, v' => effects call reply v v'

/-- A table is a host on which nothing is missing above a path. -/
theorem hostEffects_of_effects (call : Call) (reply : call.Reply) (v v' : View)
    (h : effects call reply v v') : hostEffects (fun _ => True) call reply v v' := by
  cases call with
  | makeDirectory path => exact ⟨v.table, ⟨.refl path v.table, rfl⟩, h⟩
  | bindMount source target options => exact h.imp_right fun stays => ⟨trivial, stays⟩
  | _ => exact h

/-! ## Machines -/

namespace Machine

/-- What requests see of a machine. -/
def view (m : Machine) : View := ⟨m.table, m.bench.reservations⟩

/-- The machine tells what is mounted, whatever else is to fail. -/
structure Tells (m : Machine) : Prop where
  isMountPoint : m.failures.isMountPoint = []
  probe : m.failures.probe = []

/-- Whatever is to fail, the machine tells nothing wrong. -/
theorem handle_faulty {fuse : FuseMounter} (hfuse : FailsByMount fuse) :
    Behaves (handle fuse) faultyEffects view fun _ => True where
  stays _ _ _ := trivial
  effects call m _ := by
    cases call with
    | reserve name =>
      refine ⟨?_, rfl⟩
      simp only [handle, reserve, Reservations.tryAcquire, view]
      split <;> simp_all
    | release name | log event | statFileSystem path => rfl
    | isMountPoint path =>
      refine ⟨?_, rfl⟩
      simp only [handle, isMountPoint]
      split
      · exact .inr ⟨_, rfl⟩
      · exact .inl rfl
    | probe path =>
      refine ⟨?_, rfl⟩
      simp only [handle, probe]
      split
      · exact .inr ⟨_, rfl⟩
      · exact .inl rfl
    | makeDirectory path =>
      simp only [faultyEffects, effects, handle, makeDirectory, record]
      split <;> rfl
    | bindMount source target options =>
      simp only [faultyEffects, effects, handle, bindMount, record]
      split
      next => exact .inl rfl
      next => exact .inl rfl
      next => exact .inr ⟨trivial, rfl⟩
      next => exact .inl rfl
    | unmount path =>
      simp only [faultyEffects, effects, handle, unmount, record]
      split <;> rfl
    | removeDirectory path => exact .inl rfl
    | fuseMount volume target secrets =>
      have table := hfuse.table m volume target secrets
      simp only [faultyEffects, effects, handle, view, hfuse.reservations, table]
      cases (fuse m volume target secrets).1 <;> rfl

theorem handle_behaves {fuse : FuseMounter} (hfuse : FailsByMount fuse) :
    Behaves (handle fuse) effects view Tells where
  stays call m hm := by
    have failures := (handle_failures hfuse call m).1
    exact ⟨by rw [failures, hm.isMountPoint], by rw [failures, hm.probe]⟩
  effects call m hm := by
    have faulty := (handle_faulty hfuse).effects call m trivial
    cases call with
    | isMountPoint path =>
      refine ⟨?_, rfl⟩
      simp only [handle, isMountPoint, hm.isMountPoint, view]
      rfl
    | probe path =>
      refine ⟨?_, rfl⟩
      simp only [handle, probe, hm.probe, view]
      rfl
    | _ => exact faulty

end Machine

end FuseVolumes.Node
