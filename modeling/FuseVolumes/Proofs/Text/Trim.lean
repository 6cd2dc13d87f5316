import FuseVolumes.Text.Blank
import Mathlib.Data.List.TakeWhile

/-!
# Trimmed texts

What is left of a text when characters are dropped at an end is what neither begins nor ends in one
of them and lacks nothing else (`trimEnd_eq_iff`, `trim_eq_iff`). So there is one way only to read a
text as a core with something to be dropped around it.
-/

namespace FuseVolumes.Text

variable {drop : Char → Bool} {text core : List Char}

theorem dropWhile_eq_iff : text.dropWhile drop = core ↔
    ∃ front, text = front ++ core ∧ (∀ c ∈ front, drop c = true) ∧
      ∀ c ∈ core.head?, drop c = false := by
  constructor
  · rintro rfl
    refine ⟨text.takeWhile drop, List.takeWhile_append_dropWhile.symm,
      fun c h => List.mem_takeWhile_imp h, fun c h => ?_⟩
    have stopped := List.head?_dropWhile_not drop text
    rw [Option.mem_def.1 h] at stopped
    simpa using stopped
  · rintro ⟨front, rfl, dropped, kept⟩
    rw [List.dropWhile_append_of_pos dropped]
    cases core with
    | nil => rfl
    | cons c core => exact List.dropWhile_cons_of_neg (by simpa using kept c rfl)

/-- The end that is dropped is all that is lacking. -/
theorem trimEnd_eq_iff : trimEnd drop text = core ↔
    ∃ back, text = core ++ back ∧ (∀ c ∈ back, drop c = true) ∧
      ∀ c ∈ core.getLast?, drop c = false := by
  rw [trimEnd, List.reverse_eq_iff, dropWhile_eq_iff, List.head?_reverse]
  constructor
  · rintro ⟨front, whole, dropped, kept⟩
    refine ⟨front.reverse, ?_, fun c h => dropped c (List.mem_reverse.1 h), kept⟩
    rw [← List.reverse_inj, whole, List.reverse_append, List.reverse_reverse]
  · rintro ⟨back, rfl, dropped, kept⟩
    exact ⟨back.reverse, List.reverse_append, fun c h => dropped c (List.mem_reverse.1 h), kept⟩

/-- A text with blanks around a core that neither begins nor ends in one. -/
def Trims (text core : List Char) : Prop :=
  ∃ before after, text = before ++ core ++ after ∧
    (∀ c ∈ before, isBlank c = true) ∧ (∀ c ∈ after, isBlank c = true) ∧
    (∀ c ∈ core.head?, isBlank c = false) ∧ ∀ c ∈ core.getLast?, isBlank c = false

theorem trim_eq_iff : trim text = core ↔ Trims text core := by
  rw [trim, trimEnd_eq_iff]
  constructor
  · rintro ⟨after, rest, blank, last⟩
    obtain ⟨before, whole, blank', first⟩ := dropWhile_eq_iff.1 rest
    refine ⟨before, after, by rw [whole, List.append_assoc], blank', blank, fun c h => ?_, last⟩
    exact first c (by rw [List.head?_append, Option.mem_def.1 h]; rfl)
  · rintro ⟨before, after, rfl, blank, blank', first, last⟩
    cases core with
    | nil =>
      -- Where nothing is left, all blanks are dropped from the front.
      refine ⟨[], ?_, nofun, nofun⟩
      rw [dropWhile_eq_iff]
      refine ⟨before ++ after, by simp, ?_, nofun⟩
      exact fun c h => (List.mem_append.1 h).elim (blank c) (blank' c)
    | cons c core =>
      refine ⟨after, ?_, blank', last⟩
      rw [dropWhile_eq_iff]
      exact ⟨before, List.append_assoc .., blank, first⟩

end FuseVolumes.Text
