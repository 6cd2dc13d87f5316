import FuseVolumes.Reservations

/-! What is reserved after a name was asked for or given back. -/

namespace FuseVolumes.Reservations

theorem isReserved_tryAcquire (r : Reservations) (name other : String) :
    (r.tryAcquire name).2.isReserved other = (other == name || r.isReserved other) := by
  by_cases ho : other = name
  · subst ho
    by_cases hr : other ∈ r.names <;> simp [tryAcquire, isReserved, hr]
  · by_cases hr : name ∈ r.names <;> simp [tryAcquire, isReserved, hr, ho]

theorem isReserved_release (r : Reservations) (name other : String) :
    (r.release name).isReserved other = (other != name && r.isReserved other) := by
  by_cases ho : other = name <;> simp [release, isReserved, ho]

/-- A name that is given back is as it was before it was had. -/
theorem release_tryAcquire {r : Reservations} {name : String}
    (free : r.isReserved name = false) : (r.tryAcquire name).2.release name = r := by
  have unlisted : ∀ other ∈ r.names, (other != name) = true := by
    intro other listed
    have different : other ≠ name := by
      rintro rfl
      simp [isReserved, listed] at free
    simpa using different
  have acquired : (r.tryAcquire name).2 = ⟨name :: r.names⟩ := by
    rw [tryAcquire, free]
    rfl
  rw [acquired, release, List.filter_cons_of_neg (by simp), List.filter_eq_self.2 unlisted]

theorem names_eq_nil_iff {r : Reservations} :
    r.names = [] ↔ ∀ name, r.isReserved name = false := by
  simp [isReserved, List.eq_nil_iff_forall_not_mem]

end FuseVolumes.Reservations
