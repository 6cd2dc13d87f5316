import FuseVolumes.Proofs.Dict
import FuseVolumes.Proofs.Reservations

/-!
What is reserved in which set, and which guards there are, after each call. Of all sets a call
changes only those whose names it takes or gives back.
-/

namespace FuseVolumes.Reservations

theorem tryAcquire_fst (r : Reservations) (name : String) :
    (r.tryAcquire name).1 = !r.isReserved name := by
  cases h : r.isReserved name <;> simp [tryAcquire, h]

theorem tryAcquire_of_isReserved {r : Reservations} {name : String}
    (taken : r.isReserved name = true) : r.tryAcquire name = (false, r) := by
  rw [tryAcquire, if_pos taken]

namespace Guarded

variable {g : Guarded} {set name slot : String} {held : Held}

/-- A name is reserved in a set. -/
def Reserved (g : Guarded) (held : Held) : Prop := g.isReserved held.set held.name = true

theorem reservations_update (g : Guarded) (set other : String) (r : Reservations) :
    (g.update set r).reservations other = if other = set then r else g.reservations other := by
  rw [reservations, update]
  dsimp only
  by_cases same : other = set
  · subst same
    rw [if_pos rfl, List.lookup_cons_self, Option.getD_some]
  · have unlike : (other == set) = false := by simpa using same
    rw [if_neg same, List.lookup_cons, unlike, Dict.lookup_filter_ne, unlike]
    rfl

/-! ## Names -/

theorem tryAcquire_answer (g : Guarded) (set name : String) :
    (g.tryAcquire set name).1 = true ↔ ¬ g.Reserved ⟨set, name⟩ := by
  change ((g.reservations set).tryAcquire name).1 = true ↔ _
  rw [tryAcquire_fst, Bool.not_eq_true', Reserved, isReserved, Bool.not_eq_true]

theorem guards_tryAcquire (g : Guarded) (set name : String) :
    (g.tryAcquire set name).2.guards = g.guards := rfl

theorem reservations_tryAcquire_of_ne {other : String} (differ : other ≠ set) :
    (g.tryAcquire set name).2.reservations other = g.reservations other :=
  (reservations_update g set other _).trans (if_neg differ)

/-- A call that finds the name taken leaves every set as it was. -/
theorem reservations_tryAcquire_of_reserved (taken : g.Reserved ⟨set, name⟩) (other : String) :
    (g.tryAcquire set name).2.reservations other = g.reservations other := by
  by_cases same : other = set
  · subst same
    change (g.update other ((g.reservations other).tryAcquire name).2).reservations other = _
    rw [reservations_update, if_pos rfl, tryAcquire_of_isReserved taken]
  · exact reservations_tryAcquire_of_ne same

theorem reserved_tryAcquire :
    (g.tryAcquire set name).2.Reserved held ↔ held = ⟨set, name⟩ ∨ g.Reserved held := by
  obtain ⟨other, n⟩ := held
  change ((g.update set ((g.reservations set).tryAcquire name).2).reservations other).isReserved n =
    true ↔ _
  rw [reservations_update, Held.mk.injEq, Reserved, isReserved]
  by_cases same : other = set
  · subst same
    simp [isReserved_tryAcquire]
  · simp [same]

theorem reservations_release_of_ne {other : String} (differ : other ≠ set) :
    (g.release set name).reservations other = g.reservations other :=
  (reservations_update g set other _).trans (if_neg differ)

theorem reserved_release :
    (g.release set name).Reserved held ↔ g.Reserved held ∧ held ≠ ⟨set, name⟩ := by
  obtain ⟨other, n⟩ := held
  change ((g.update set ((g.reservations set).release name)).reservations other).isReserved n =
    true ↔ _
  rw [reservations_update, ne_eq, Held.mk.injEq, Reserved, isReserved]
  by_cases same : other = set
  · subst same
    simp [isReserved_release, and_comm]
  · simp [same]

/-! ## Guards -/

theorem drop_of_none (h : g.guards.lookup slot = none) : g.drop slot = (false, g) := by
  rw [drop, h]

theorem drop_of_some (h : g.guards.lookup slot = some held) :
    g.drop slot =
      (true, { g with guards := g.guards.filter (·.1 != slot) }.release held.set held.name) := by
  rw [drop, h]

theorem lookup_drop (g : Guarded) (slot other : String) :
    (g.drop slot).2.guards.lookup other =
      if other = slot then none else g.guards.lookup other := by
  cases h : g.guards.lookup slot with
  | none =>
    rw [drop_of_none h]
    split
    next same => rw [same, h]
    next => rfl
  | some held =>
    rw [drop_of_some h]
    change (g.guards.filter (·.1 != slot)).lookup other = _
    rw [Dict.lookup_filter_ne]
    simp only [beq_iff_eq]

theorem reserved_drop :
    (g.drop slot).2.Reserved held ↔ g.Reserved held ∧ g.guards.lookup slot ≠ some held := by
  cases h : g.guards.lookup slot with
  | none => simp [drop_of_none h]
  | some given =>
    rw [drop_of_some h, reserved_release, ne_comm, ne_eq, ne_eq, Option.some.injEq]
    rfl

theorem reservations_drop (h : ∀ name, g.guards.lookup slot ≠ some ⟨set, name⟩) :
    (g.drop slot).2.reservations set = g.reservations set := by
  cases hslot : g.guards.lookup slot with
  | none => rw [drop_of_none hslot]
  | some held =>
    rw [drop_of_some hslot]
    refine reservations_release_of_ne fun same => h held.name ?_
    rw [hslot, same]

theorem guard_of_reserved (taken : g.Reserved ⟨set, name⟩) :
    g.guard slot set name = (.error ⟨name⟩, g) := by
  have refused : (g.tryAcquire set name).1 = false := by
    rw [← Bool.not_eq_true, tryAcquire_answer]
    exact not_not_intro taken
  rw [guard]
  split
  · rfl
  next answered => rw [answered] at refused; cases refused

/-- What is left of the guard that was in a slot before. -/
def replace (g : Guarded) (slot set name : String) : Guarded :=
  (((g.tryAcquire set name).2).drop slot).2

theorem guard_of_not_reserved (free : ¬ g.Reserved ⟨set, name⟩) :
    g.guard slot set name = (.ok name, { g.replace slot set name with
      guards := (slot, ⟨set, name⟩) :: (g.replace slot set name).guards }) := by
  have granted : (g.tryAcquire set name).1 = true := (tryAcquire_answer g set name).2 free
  rw [guard]
  split
  next answered => rw [answered] at granted; cases granted
  next g' answered =>
    have reached : g' = (g.tryAcquire set name).2 := by rw [answered]
    rw [reached]
    rfl

end Guarded

end FuseVolumes.Reservations
