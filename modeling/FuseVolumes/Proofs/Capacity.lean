import FuseVolumes.Capacity
import Mathlib.Algebra.Order.Group.Int
import Mathlib.Order.Bounds.Defs
import Mathlib.Order.Lattice

/-!
# Rounding

A number of GiB holds a size if and only if it is not less than the size in whole GiB
(`wholeGib_le_iff`), and what follows from that: rounding is monotone, the size that is rounded up
is the least whole number of GiB that holds it and one GiB at least (`isLeast_roundedGib`), as far
as sizes go (`roundUp_eq_min`), and to round up twice is to round up once (`roundUp_roundUp`).

Sizes are numbers of 64 bits. Rounding one has no step that does not fit into 64 bits, so it is the
same if every step is checked (`wholeGib?_eq`, `roundUp?_eq`).
-/

namespace FuseVolumes.Capacity

variable {bytes bytes' n : Int}

/-! ## Whole GiB -/

theorem wholeGib_eq (bytes : Int) : wholeGib bytes = (max bytes 0 + (gib - 1)) / gib := by
  change (max bytes 0 / 1073741824 + if max bytes 0 % 1073741824 = 0 then 0 else 1) =
    (max bytes 0 + (1073741824 - 1)) / 1073741824
  split <;> omega

theorem wholeGib_nonneg (bytes : Int) : 0 ≤ wholeGib bytes := by
  rw [wholeGib_eq, gib]
  omega

/-- What is at least the size in whole GiB holds it, and nothing less does. -/
theorem wholeGib_le_iff (h : 0 ≤ n) : wholeGib bytes ≤ n ↔ bytes ≤ n * gib := by
  rw [wholeGib_eq, gib]
  omega

theorem le_wholeGib_mul (bytes : Int) : bytes ≤ wholeGib bytes * gib :=
  (wholeGib_le_iff (wholeGib_nonneg bytes)).1 le_rfl

theorem wholeGib_mono (h : bytes ≤ bytes') : wholeGib bytes ≤ wholeGib bytes' :=
  (wholeGib_le_iff (wholeGib_nonneg _)).2 (h.trans (le_wholeGib_mul _))

theorem wholeGib_mul (h : 0 ≤ n) : wholeGib (n * gib) = n := by
  rw [wholeGib_eq, gib]
  omega

/-- Any size but none fills a GiB or begins it. -/
theorem wholeGib_pos (h : 0 < bytes) : 1 ≤ wholeGib bytes := by
  by_contra none
  have small : wholeGib bytes ≤ 0 := by omega
  rw [wholeGib_le_iff le_rfl, Int.zero_mul] at small
  omega

/-! ## Rounding up -/

/-- The least number of GiB that holds a size, one at least. -/
def roundedGib (bytes : Int) : Int := max (wholeGib bytes) 1

theorem roundedGib_pos (bytes : Int) : 1 ≤ roundedGib bytes := le_max_right _ _

theorem roundedGib_le_iff (h : 0 ≤ n) : roundedGib bytes ≤ n ↔ max bytes gib ≤ n * gib := by
  rw [roundedGib, max_le_iff, max_le_iff, wholeGib_le_iff h]
  refine and_congr_right fun _ => ?_
  rw [gib]
  omega

theorem roundedGib_mono (h : bytes ≤ bytes') : roundedGib bytes ≤ roundedGib bytes' :=
  max_le_max_right 1 (wholeGib_mono h)

theorem isLeast_roundedGib (bytes : Int) :
    IsLeast {n | gib ∣ n ∧ max bytes gib ≤ n} (roundedGib bytes * gib) := by
  have positive := roundedGib_pos bytes
  refine ⟨⟨Int.dvd_mul_left _ _, (roundedGib_le_iff (by omega)).1 le_rfl⟩, ?_⟩
  rintro _ ⟨⟨n, rfl⟩, holds⟩
  have natural : 0 ≤ n := by
    rw [gib] at holds
    omega
  rw [Int.mul_comm gib n] at holds ⊢
  have enough := (roundedGib_le_iff natural).2 holds
  rw [gib]
  omega

theorem roundUp_eq_min (bytes : Int) : roundUp bytes = min (roundedGib bytes * gib) maxBytes := by
  rw [roundUp, roundedGib]
  split
  next small =>
    have one : wholeGib bytes ≤ 1 := (wholeGib_le_iff Int.one_nonneg).2 (by omega)
    rw [max_eq_right one]
    decide
  next large =>
    have one : 1 ≤ wholeGib bytes := wholeGib_pos (by rw [gib] at large; omega)
    rw [max_eq_left one]

theorem roundUp_mono (h : bytes ≤ bytes') : roundUp bytes ≤ roundUp bytes' := by
  have := roundedGib_mono h
  rw [roundUp_eq_min, roundUp_eq_min, gib, maxBytes]
  omega

/-- Up to the last whole GiB, sizes are rounded up to a positive number of them. -/
theorem roundUp_eq (h : bytes ≤ 2 ^ 63 - 2 ^ 30) : roundUp bytes = roundedGib bytes * gib := by
  have last : roundedGib bytes ≤ 8589934591 :=
    (roundedGib_le_iff (by decide)).2 (max_le (h.trans (by decide)) (by decide))
  rw [roundUp_eq_min, gib, maxBytes]
  omega

/-- Beyond the last whole GiB there is the largest size. -/
theorem roundUp_eq_maxBytes (h : 2 ^ 63 - 2 ^ 30 < bytes) : roundUp bytes = maxBytes := by
  have beyond : ¬ roundedGib bytes ≤ 8589934591 := fun held => by
    have := (roundedGib_le_iff (by decide)).1 held
    rw [gib] at this
    omega
  rw [roundUp_eq_min, gib, maxBytes]
  omega

/-- As many GiB hold the rounded size as hold the size, one at least. -/
theorem wholeGib_roundUp (h : bytes ≤ maxBytes) : wholeGib (roundUp bytes) = roundedGib bytes := by
  by_cases fits : bytes ≤ 2 ^ 63 - 2 ^ 30
  · rw [roundUp_eq fits]
    exact wholeGib_mul (by have := roundedGib_pos bytes; omega)
  · rw [roundUp_eq_maxBytes (by omega), roundedGib, wholeGib_eq, wholeGib_eq, gib]
    rw [maxBytes] at h ⊢
    omega

/-- A quota for a rounded size holds that much. -/
theorem wholeGib_roundUp_mul (h : bytes ≤ 2 ^ 63 - 2 ^ 30) :
    wholeGib (roundUp bytes) * gib = roundUp bytes := by
  rw [wholeGib_roundUp (h.trans (by decide)), roundUp_eq h]

theorem wholeGib_roundUp_of_pos (h : bytes ≤ maxBytes) (positive : 0 < bytes) :
    wholeGib (roundUp bytes) = wholeGib bytes := by
  rw [wholeGib_roundUp h, roundedGib, max_eq_left (wholeGib_pos positive)]

theorem roundUp_roundUp (bytes : Int) : roundUp (roundUp bytes) = roundUp bytes := by
  by_cases fits : bytes ≤ 2 ^ 63 - 2 ^ 30
  · have rounded : wholeGib (roundUp bytes) = roundedGib bytes :=
      wholeGib_roundUp (fits.trans (by decide))
    have positive := roundedGib_pos bytes
    rw [roundUp_eq_min (roundUp bytes), roundedGib, rounded, max_eq_left positive, ← roundUp_eq_min]
  · have largest : roundUp bytes = maxBytes := roundUp_eq_maxBytes (by omega)
    rw [largest]
    decide

theorem max_le_roundUp (h : bytes ≤ maxBytes) : max bytes gib ≤ roundUp bytes := by
  rw [roundUp_eq_min]
  exact le_min (isLeast_roundedGib bytes).1.2 (max_le h (by decide))

/-! ## Sizes of 64 bits -/

/-- A number of 64 bits, one of them for the sign. -/
def IsSize (n : Int) : Prop := -maxBytes - 1 ≤ n ∧ n ≤ maxBytes

instance (n : Int) : Decidable (IsSize n) := inferInstanceAs (Decidable (_ ∧ _))

/-- A size is rounded up to the least whole number of GiB that is enough, if that is a size. -/
theorem roundUp_eq_ite (bytes : Int) : roundUp bytes =
    if IsSize (roundedGib bytes * gib) then roundedGib bytes * gib else 2 ^ 63 - 1 := by
  have positive := roundedGib_pos bytes
  rw [roundUp_eq_min]
  split
  next fits => exact min_eq_left fits.2
  next beyond =>
    have large : ¬ roundedGib bytes * gib ≤ maxBytes := fun held =>
      beyond ⟨by rw [gib, maxBytes]; omega, held⟩
    exact min_eq_right (by omega)

/-- The outcome of a step, unless it is too large. -/
def checked (n : Int) : Option Int := if IsSize n then some n else none

/-- The outcome of a step, and the nearest size if it is too large. -/
def saturated (n : Int) : Int := max (-maxBytes - 1) (min n maxBytes)

/-- `wholeGib`, with every step checked. -/
def wholeGib? (bytes : Int) : Option Int := do
  let bytes ← checked (max bytes 0)
  let whole ← checked (bytes / gib)
  let begun ← checked (bytes % gib)
  checked (whole + if begun = 0 then 0 else 1)

/-- `roundUp`, with every step checked but the product, which is saturated. -/
def roundUp? (bytes : Int) : Option Int :=
  if bytes < gib then some gib else (wholeGib? bytes).map fun n => saturated (n * gib)

theorem checked_of_nonneg (h : 0 ≤ n) (fits : n ≤ maxBytes) : checked n = some n :=
  if_pos ⟨by rw [maxBytes]; omega, fits⟩

theorem wholeGib?_eq (h : IsSize bytes) : wholeGib? bytes = some (wholeGib bytes) := by
  obtain ⟨-, most⟩ := h
  rw [maxBytes] at most
  have whole : checked (max bytes 0 / gib) = some (max bytes 0 / gib) :=
    checked_of_nonneg (by rw [gib]; omega) (by rw [gib, maxBytes]; omega)
  have begun : checked (max bytes 0 % gib) = some (max bytes 0 % gib) :=
    checked_of_nonneg (by rw [gib]; omega) (by rw [gib, maxBytes]; omega)
  have all : checked (wholeGib bytes) = some (wholeGib bytes) :=
    checked_of_nonneg (wholeGib_nonneg bytes) (by rw [wholeGib_eq, gib, maxBytes]; omega)
  rw [wholeGib?, checked_of_nonneg (le_max_right _ _) (max_le most (by decide))]
  simp only [Option.bind_eq_bind, Option.bind_some, whole, begun]
  exact all

theorem roundUp?_eq (h : IsSize bytes) : roundUp? bytes = some (roundUp bytes) := by
  rw [roundUp?, roundUp, wholeGib?_eq h, Option.map_some, saturated]
  split
  · rfl
  · have natural : 0 ≤ min (wholeGib bytes * gib) maxBytes :=
      le_min (Int.mul_nonneg (wholeGib_nonneg _) (by decide)) (by decide)
    rw [max_eq_right (Int.le_trans (by decide) natural)]

end FuseVolumes.Capacity
