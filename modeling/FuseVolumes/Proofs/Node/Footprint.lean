import FuseVolumes.Node.Machine
import FuseVolumes.Proofs.Mount.Table
import FuseVolumes.Proofs.Program.Requests
import FuseVolumes.Proofs.Reservations

/-!
What of a node a request is about: the path it looks at or changes, or the name it reserves. A
machine replies to requests about some paths and names by what it knows of those, and leaves all
others alone (`local_handle`, `spares_handle`). So programs with footprints that have nothing in
common do not see each other.
-/

namespace FuseVolumes.Node

/-- Some paths and some names. -/
structure Footprint where
  paths : String → Prop
  names : String → Prop

namespace Footprint

/-- Requests about nothing but the paths and names of a footprint. -/
def Covers (f : Footprint) : Call → Prop
  | .reserve name | .release name => f.names name
  | .log _ => True
  | .isMountPoint path | .probe path | .makeDirectory path | .unmount path
  | .bindMount _ path _ | .fuseMount _ path _ => f.paths path
  | .removeDirectory _ | .statFileSystem _ => False

/-- One path and no name. -/
def one (path : String) : Footprint := ⟨(· = path), fun _ => False⟩

/-- Some paths and no name. -/
def ofPaths (paths : List String) : Footprint := ⟨(· ∈ paths), fun _ => False⟩

def Disjoint (f g : Footprint) : Prop :=
  (∀ path, f.paths path → ¬ g.paths path) ∧ ∀ name, f.names name → ¬ g.names name

theorem Covers.mono {f g : Footprint} (hpaths : ∀ path, f.paths path → g.paths path)
    (hnames : ∀ name, f.names name → g.names name) {call : Call} (h : f.Covers call) :
    g.Covers call := by
  cases call with
  | reserve name | release name => exact hnames _ h
  | log event => trivial
  | isMountPoint path | probe path | makeDirectory path | unmount path => exact hpaths _ h
  | bindMount source target options => exact hpaths _ h
  | fuseMount volume target secrets => exact hpaths _ h
  | removeDirectory path | statFileSystem path => exact h

end Footprint

namespace Machine

/-- Whether a fuse mount fails, and how, depends on what is to be mounted where and on nothing that
was done before, and a mount that succeeds is the only change. -/
structure FailsByMount (fuse : FuseMounter) : Prop where
  reply : ∀ (m n : Machine) (volume : Volume) (target : String) (secrets : Dict),
    m.refusals = n.refusals → (fuse m volume target secrets).1 = (fuse n volume target secrets).1
  table : ∀ (m : Machine) (volume : Volume) (target : String) (secrets : Dict),
    (fuse m volume target secrets).2.table =
      if (fuse m volume target secrets).1.isOk then m.table.mountHealthy target else m.table
  failures : ∀ (m : Machine) (volume : Volume) (target : String) (secrets : Dict),
    (fuse m volume target secrets).2.failures = m.failures
  refusals : ∀ (m : Machine) (volume : Volume) (target : String) (secrets : Dict),
    (fuse m volume target secrets).2.refusals = m.refusals
  reservations : ∀ (m : Machine) (volume : Volume) (target : String) (secrets : Dict),
    (fuse m volume target secrets).2.bench.reservations = m.bench.reservations

theorem fuseMount_failsByMount : FailsByMount fuseMount where
  reply m n volume _ _ h := by
    cases hn : n.refusals.lookup volume.name <;> simp [fuseMount, record, h, hn]
  table m volume _ _ := by
    cases hm : m.refusals.lookup volume.name <;>
      simp [fuseMount, record, hm, Except.isOk, Except.toBool]
  failures m volume _ _ := by
    cases hm : m.refusals.lookup volume.name <;> simp [fuseMount, record, hm]
  refusals m volume _ _ := by
    cases hm : m.refusals.lookup volume.name <;> simp [fuseMount, record, hm]
  reservations m volume _ _ := by
    cases hm : m.refusals.lookup volume.name <;> simp [fuseMount, record, hm]

/-- Two machines that are alike as far as a footprint goes. -/
structure Agree (f : Footprint) (m n : Machine) : Prop where
  failures : m.failures = n.failures
  refusals : m.refusals = n.refusals
  spots : ∀ path, f.paths path → m.table.spot path = n.table.spot path
  names : ∀ name, f.names name →
    m.bench.reservations.isReserved name = n.bench.reservations.isReserved name

theorem agree_equivalence (f : Footprint) : Equivalence (Agree f) where
  refl _ := ⟨rfl, rfl, fun _ _ => rfl, fun _ _ => rfl⟩
  symm h := ⟨h.failures.symm, h.refusals.symm, fun path hp => (h.spots path hp).symm,
    fun name hn => (h.names name hn).symm⟩
  trans h h' := ⟨h.failures.trans h'.failures, h.refusals.trans h'.refusals,
    fun path hp => (h.spots path hp).trans (h'.spots path hp),
    fun name hn => (h.names name hn).trans (h'.names name hn)⟩

theorem Agree.mono {f g : Footprint} {m n : Machine} (h : Agree g m n)
    (hpaths : ∀ path, f.paths path → g.paths path) (hnames : ∀ name, f.names name → g.names name) :
    Agree f m n :=
  ⟨h.failures, h.refusals, fun path hp => h.spots path (hpaths path hp),
    fun name hn => h.names name (hnames name hn)⟩

/-! ## What requests change -/

section Handle

variable {fuse : FuseMounter}

/-- No request changes what is to fail. -/
theorem handle_failures (hfuse : FailsByMount fuse) (call : Call) (m : Machine) :
    (handle fuse call m).2.failures = m.failures ∧
      (handle fuse call m).2.refusals = m.refusals := by
  cases call with
  | reserve name | release name | log event | isMountPoint path | probe path
  | statFileSystem path => exact ⟨rfl, rfl⟩
  | removeDirectory path => exact ⟨rfl, rfl⟩
  | makeDirectory path =>
    simp only [handle, makeDirectory, record]
    split <;> exact ⟨rfl, rfl⟩
  | bindMount source target options =>
    simp only [handle, bindMount, record]
    split <;> exact ⟨rfl, rfl⟩
  | unmount path =>
    simp only [handle, unmount, record]
    split <;> exact ⟨rfl, rfl⟩
  | fuseMount volume target secrets =>
    exact ⟨hfuse.failures m volume target secrets, hfuse.refusals m volume target secrets⟩

/-- The names in use after a request. -/
theorem handle_reservations (hfuse : FailsByMount fuse) (call : Call) (m : Machine) :
    (handle fuse call m).2.bench.reservations =
      match call with
      | .reserve name => (m.bench.reservations.tryAcquire name).2
      | .release name => m.bench.reservations.release name
      | _ => m.bench.reservations := by
  cases call with
  | reserve name | release name => rfl
  | log event | isMountPoint path | probe path | statFileSystem path => rfl
  | removeDirectory path => rfl
  | makeDirectory path =>
    simp only [handle, makeDirectory, record]
    split <;> rfl
  | bindMount source target options =>
    simp only [handle, bindMount, record]
    split <;> rfl
  | unmount path =>
    simp only [handle, unmount, record]
    split <;> rfl
  | fuseMount volume target secrets => exact hfuse.reservations m volume target secrets

/-- Whether a name is in use after a request. -/
theorem handle_reserved (hfuse : FailsByMount fuse) (call : Call) (m : Machine) (name : String) :
    (handle fuse call m).2.bench.reservations.isReserved name =
      match call with
      | .reserve other => name == other || m.bench.reservations.isReserved name
      | .release other => name != other && m.bench.reservations.isReserved name
      | _ => m.bench.reservations.isReserved name := by
  rw [handle_reservations hfuse]
  cases call with
  | reserve other => exact Reservations.isReserved_tryAcquire _ _ _
  | release other => exact Reservations.isReserved_release _ _ _
  | _ => rfl

/-- What is at a path after a request. -/
theorem handle_spot (hfuse : FailsByMount fuse) (call : Call) (m : Machine) (path : String) :
    (handle fuse call m).2.table.spot path =
      match call with
      | .makeDirectory other =>
        if path = other ∧ (fault? m.failures.makeDir other).isNone then
          (true, (m.table.spot path).2)
        else m.table.spot path
      | .bindMount _ other _ =>
        if path = other ∧ (fault? m.failures.bindMount other).isNone ∧
            ((fault? m.failures.remount other).isNone ∨ (fault? m.failures.undo other).isSome) then
          (true, some .healthy)
        else m.table.spot path
      | .unmount other =>
        if path = other ∧ (fault? m.failures.unmount other).isNone then
          ((m.table.spot path).1, none)
        else m.table.spot path
      | .fuseMount volume other secrets =>
        if path = other ∧ (fuse m volume other secrets).1.isOk then (true, some .healthy)
        else m.table.spot path
      | _ => m.table.spot path := by
  cases call with
  | reserve other | release other | log event | isMountPoint other | probe other
  | statFileSystem other => rfl
  | removeDirectory other => rfl
  | makeDirectory other =>
    cases hfault : fault? m.failures.makeDir other
    · by_cases hp : path = other <;>
        simp [handle, makeDirectory, record, hfault, Mount.Table.spot_addDir, hp]
    · simp [handle, makeDirectory, record, hfault]
  | bindMount source other options =>
    cases hbind : fault? m.failures.bindMount other <;>
      cases hremount : fault? m.failures.remount other <;>
      cases hundo : fault? m.failures.undo other <;>
      simp [handle, bindMount, record, hbind, hremount, hundo, Mount.Table.spot_mountHealthy]
  | unmount other =>
    cases hfault : fault? m.failures.unmount other
    · by_cases hp : path = other <;>
        simp [handle, unmount, record, hfault, Mount.Table.spot_removeMount, hp]
    · simp [handle, unmount, record, hfault]
  | fuseMount volume other secrets =>
    simp only [handle, hfuse.table]
    cases hok : (fuse m volume other secrets).1.isOk <;> simp [Mount.Table.spot_mountHealthy]

/-! ## Footprints -/

/-- Replies and changes follow from what is known within the footprint. -/
theorem local_handle (hfuse : FailsByMount fuse) (f : Footprint) :
    Program.Local (handle fuse) f.Covers (Agree f) := by
  intro call hcall m n h
  have hreply : (handle fuse call m).1 = (handle fuse call n).1 := by
    cases call with
    | reserve name =>
      have := h.names name hcall
      simp only [handle, reserve, Reservations.tryAcquire, this]
      split <;> rfl
    | release name | log event => rfl
    | isMountPoint path =>
      simp only [handle, isMountPoint, h.failures,
        Mount.Table.isMountPoint_congr (h.spots path hcall)]
    | probe path =>
      simp only [handle, probe, h.failures, Mount.Table.probe_congr (h.spots path hcall)]
    | makeDirectory path =>
      simp only [handle, makeDirectory, record, h.failures]
      split <;> rfl
    | bindMount source target options =>
      simp only [handle, bindMount, record, h.failures]
      split <;> rfl
    | unmount path =>
      simp only [handle, unmount, record, h.failures]
      split <;> rfl
    | fuseMount volume target secrets =>
      exact hfuse.reply m n volume target secrets h.refusals
    | removeDirectory path | statFileSystem path => exact hcall.elim
  refine ⟨hreply, ?_, ?_, fun path hp => ?_, fun name hn => ?_⟩
  · rw [(handle_failures hfuse call m).1, (handle_failures hfuse call n).1, h.failures]
  · rw [(handle_failures hfuse call m).2, (handle_failures hfuse call n).2, h.refusals]
  · rw [handle_spot hfuse, handle_spot hfuse, h.spots path hp, h.failures]
    cases call with
    | fuseMount volume target secrets =>
      simp only [hfuse.reply m n volume target secrets h.refusals]
    | _ => rfl
  · rw [handle_reserved hfuse, handle_reserved hfuse, h.names name hn]

/-- What is known within a footprint stays true, whatever happens elsewhere. -/
theorem spares_handle (hfuse : FailsByMount fuse) {f g : Footprint} (hdisjoint : f.Disjoint g) :
    Program.Spares (handle fuse) g.Covers (Agree f) := by
  intro call hcall m
  refine ⟨(handle_failures hfuse call m).1.symm, (handle_failures hfuse call m).2.symm,
    fun path hp => ?_, fun name hn => ?_⟩
  · rw [handle_spot hfuse]
    have hne : ∀ other, g.paths other → path ≠ other := by
      rintro _ hother rfl
      exact hdisjoint.1 _ hp hother
    cases call with
    | makeDirectory other | unmount other => simp [hne other hcall]
    | bindMount source other options => simp [hne other hcall]
    | fuseMount volume other secrets => simp [hne other hcall]
    | _ => rfl
  · rw [handle_reserved hfuse]
    have hne : ∀ other, g.names other → name ≠ other := by
      rintro _ hother rfl
      exact hdisjoint.2 _ hn hother
    cases call with
    | reserve other | release other => simp [hne other hcall]
    | _ => rfl

end Handle

end Machine

end FuseVolumes.Node
