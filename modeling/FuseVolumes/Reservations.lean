import FuseVolumes.Status

/-! Names reserved by operations in flight. An orchestrator that lost its state may ask twice
for the same volume; the second request is turned away while the first one runs. -/

namespace FuseVolumes

/-- The reserved names, each once. -/
structure Reservations where
  names : List String
  deriving DecidableEq, Repr

namespace Reservations

def empty : Reservations := ⟨[]⟩

def isReserved (r : Reservations) (name : String) : Bool := r.names.contains name

/-- Reserves a name, or tells that it is taken. -/
def tryAcquire (r : Reservations) (name : String) : Bool × Reservations :=
  if r.isReserved name then (false, r) else (true, ⟨name :: r.names⟩)

/-- Gives a name back; a name that is not reserved stays so. -/
def release (r : Reservations) (name : String) : Reservations :=
  ⟨r.names.filter (· != name)⟩

/-- An operation on the named volume is in flight. -/
structure InProgress where
  name : String
  deriving DecidableEq, Repr

def InProgress.message (e : InProgress) : String :=
  s!"An operation with the given volume {e.name} already exists"

def InProgress.status (e : InProgress) : Status := ⟨.aborted, e.message⟩

/-! ## Guards -/

/-- What a guard holds: a name in one of the sets. -/
structure Held where
  set : String
  name : String
  deriving DecidableEq, Repr

/-- Any number of independent sets of reservations, by name, and guards in slots. A guard gives
its name back when it is given up. -/
structure Guarded where
  sets : List (String × Reservations)
  guards : List (String × Held)
  deriving DecidableEq, Repr

namespace Guarded

def empty : Guarded := ⟨[], []⟩

/-- A set that was never used is empty. -/
def reservations (g : Guarded) (set : String) : Reservations :=
  (g.sets.lookup set).getD .empty

def update (g : Guarded) (set : String) (r : Reservations) : Guarded :=
  { g with sets := (set, r) :: g.sets.filter (·.1 != set) }

def isReserved (g : Guarded) (set name : String) : Bool :=
  (g.reservations set).isReserved name

def tryAcquire (g : Guarded) (set name : String) : Bool × Guarded :=
  let (taken, r) := (g.reservations set).tryAcquire name
  (taken, g.update set r)

def release (g : Guarded) (set name : String) : Guarded :=
  g.update set ((g.reservations set).release name)

/-- Gives up the guard in a slot, and tells whether there was one. -/
def drop (g : Guarded) (slot : String) : Bool × Guarded :=
  match g.guards.lookup slot with
  | none => (false, g)
  | some held =>
    (true, { g with guards := g.guards.filter (·.1 != slot) }.release held.set held.name)

/-- Takes a guard and keeps it in a slot, whose old guard is given up afterwards. -/
def guard (g : Guarded) (slot set name : String) : Except InProgress String × Guarded :=
  match g.tryAcquire set name with
  | (false, _) => (.error ⟨name⟩, g)
  | (true, g) =>
    let (_, g) := g.drop slot
    (.ok name, { g with guards := (slot, ⟨set, name⟩) :: g.guards })

end Guarded

end Reservations

end FuseVolumes
