import FuseVolumes.Mount.Table
import FuseVolumes.Proofs.Dict

/-!
What changes of the mount table do to each path. `Table.spot` tells all there is to know of a
path, the directory below a mount included. Every change affects one path, and what is at it
afterwards depends on what was at it before.
-/

namespace FuseVolumes.Mount.Table

/-- Whether the path is a directory, and what is mounted on it. -/
def spot (t : Table) (path : String) : Bool × Option Health :=
  (t.dirs.contains path, t.mount? path)

theorem state_eq (t : Table) (path : String) :
    t.state path = match t.spot path with
      | (_, some health) => .mounted health
      | (true, none) => .empty
      | (false, none) => .absent := by
  simp only [state, spot]
  cases t.mount? path with
  | some health => rfl
  | none => cases t.dirs.contains path <;> rfl

theorem state_congr {t u : Table} {path : String} (h : t.spot path = u.spot path) :
    t.state path = u.state path := by
  rw [state_eq, state_eq, h]

theorem mount?_congr {t u : Table} {path : String} (h : t.spot path = u.spot path) :
    t.mount? path = u.mount? path :=
  congrArg Prod.snd h

theorem state_eq_empty_iff {t : Table} {path : String} :
    t.state path = .empty ↔ t.spot path = (true, none) := by
  rw [state_eq]
  split <;> simp_all

theorem state_eq_absent_iff {t : Table} {path : String} :
    t.state path = .absent ↔ t.spot path = (false, none) := by
  rw [state_eq]
  split <;> simp_all

theorem spot_addDir (t : Table) (path other : String) :
    (t.addDir path).spot other =
      if other = path then (true, (t.spot path).2) else t.spot other := by
  by_cases ho : other = path
  · subst ho
    by_cases hc : other ∈ t.dirs <;> simp [spot, addDir, mount?, hc]
  · by_cases hc : path ∈ t.dirs <;> simp [spot, addDir, mount?, hc, ho]

theorem spot_removeMount (t : Table) (path other : String) :
    (t.removeMount path).spot other =
      if other = path then ((t.spot path).1, none) else t.spot other := by
  by_cases ho : other = path
  · subst ho; simp [spot, removeMount, mount?, Dict.lookup_filter_ne]
  · simp [spot, removeMount, mount?, Dict.lookup_filter_ne, ho]

theorem spot_addMount (t : Table) (path other : String) (health : Health) :
    (t.addMount path health).spot other =
      if other = path then ((t.spot path).1, some health) else t.spot other := by
  by_cases ho : other = path
  · subst ho; simp [spot, addMount, mount?, removeMount]
  · have hbeq : (other == path) = false := by simpa using ho
    have hmount := spot_removeMount t path other
    simp only [ho, ↓reduceIte] at hmount ⊢
    rw [← hmount]
    simp [spot, addMount, mount?, removeMount, List.lookup_cons, hbeq]

theorem spot_mountHealthy (t : Table) (path other : String) :
    (t.mountHealthy path).spot other =
      if other = path then (true, some .healthy) else t.spot other := by
  rw [mountHealthy, spot_addMount, spot_addDir, spot_addDir]
  by_cases ho : other = path <;> simp [ho]

theorem spot_removeDir (t : Table) (path other : String) :
    (t.removeDir path).spot other =
      if other = path then (false, (t.spot path).2) else t.spot other := by
  by_cases ho : other = path
  · subst ho; simp [spot, removeDir, mount?]
  · simp [spot, removeDir, mount?, ho]

/-! ## Mounts on a path -/

theorem state_eq_mounted_iff {t : Table} {path : String} {health : Health} :
    t.state path = .mounted health ↔ t.mount? path = some health := by
  rw [state]
  cases t.mount? path with
  | some other => simp
  | none => cases t.dirs.contains path <;> simp

theorem mount?_eq_none_iff {t : Table} {path : String} :
    t.mount? path = none ↔ ∀ health, t.state path ≠ .mounted health := by
  simp [Option.eq_none_iff_forall_ne_some, state_eq_mounted_iff]

/-- Every mount is on a directory. -/
def Founded (t : Table) : Prop :=
  ∀ entry ∈ t.mounts, entry.1 ∈ t.dirs

instance (t : Table) : Decidable t.Founded :=
  inferInstanceAs (Decidable (∀ entry ∈ t.mounts, entry.1 ∈ t.dirs))

theorem Founded.spot_of_mounted {t : Table} (founded : t.Founded) {path : String} {health : Health}
    (mounted : t.state path = .mounted health) : t.spot path = (true, some health) := by
  have there : t.mounts.lookup path = some health := state_eq_mounted_iff.1 mounted
  obtain ⟨before, after, entries, -⟩ := List.lookup_eq_some_iff.1 there
  have dir : path ∈ t.dirs := founded (path, health) (by simp [entries])
  rw [spot, mount?, there, List.contains_iff_mem.2 dir]

@[simp] theorem mount?_addDir (t : Table) (path other : String) :
    (t.addDir path).mount? other = t.mount? other := by
  rw [addDir]
  split <;> rfl

@[simp] theorem mount?_removeMount (t : Table) (path : String) :
    (t.removeMount path).mount? path = none := by
  have h := spot_removeMount t path path
  rw [if_pos rfl] at h
  exact congrArg Prod.snd h

@[simp] theorem mount?_mountHealthy (t : Table) (path : String) :
    (t.mountHealthy path).mount? path = some .healthy := by
  have h := spot_mountHealthy t path path
  rw [if_pos rfl] at h
  exact congrArg Prod.snd h

@[simp] theorem mount?_removeDir (t : Table) (path other : String) :
    (t.removeDir path).mount? other = t.mount? other := rfl

/-- Where nothing is mounted there is nothing to take down. -/
theorem removeMount_of_none {t : Table} {path : String} (none : t.mount? path = none) :
    t.removeMount path = t := by
  have kept : t.mounts.filter (·.1 != path) = t.mounts := by
    refine List.filter_eq_self.2 fun entry hentry => ?_
    have apart := List.lookup_eq_none_iff.1 none entry hentry
    rw [bne_iff_ne] at apart ⊢
    exact apart.symm
  rw [removeMount, kept]

/-- What is mounted on an empty directory and taken down again leaves no trace. -/
theorem removeMount_mountHealthy {t : Table} {path : String} (empty : t.state path = .empty) :
    (t.mountHealthy path).removeMount path = t := by
  have spot : t.spot path = (true, none) := state_eq_empty_iff.1 empty
  have there : t.addDir path = t := if_pos (congrArg Prod.fst spot)
  have none : t.mount? path = none := congrArg Prod.snd spot
  rw [mountHealthy, there, addMount, removeMount_of_none none, removeMount,
    List.filter_cons_of_neg (by simp)]
  exact removeMount_of_none none

theorem isMountPoint_congr {t u : Table} {path : String} (h : t.spot path = u.spot path) :
    t.isMountPoint path = u.isMountPoint path := by
  simp only [isMountPoint, state_congr h]

theorem probe_congr {t u : Table} {path : String} (h : t.spot path = u.spot path) :
    t.probe path = u.probe path := by
  simp only [probe, state_congr h]

theorem mounted_of_isMountPoint {t : Table} {path : String} (h : t.isMountPoint path = .ok true) :
    ∃ health, t.mount? path = some health := by
  rw [isMountPoint] at h
  split at h
  next => cases h
  next health _ state => exact ⟨health, state_eq_mounted_iff.1 state⟩
  next => cases h
  next => cases h

theorem healthy_of_probe {t : Table} {path : String} {health : Health}
    (mounted : t.mount? path = some health) (answers : t.probe path = .ok ()) :
    health = .healthy := by
  rw [probe, state_eq_mounted_iff.2 mounted] at answers
  cases health with
  | healthy => rfl
  | disconnected | unreadable => cases answers

end FuseVolumes.Mount.Table
