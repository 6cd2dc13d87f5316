/-!
The first repetition in a list. A search from the front that keeps what it has seen ends with the
first item that it has seen already (`firstRepeat_append_iff`), and it ends so unless all items are
different (`exists_firstRepeat_iff`).
-/

namespace FuseVolumes

variable {α : Type} {items seen rest : List α} {a b : α}

/-- The first item of a list that equals an earlier one. -/
def FirstRepeat (items : List α) (a : α) : Prop :=
  ∃ before after, items = before ++ a :: after ∧ before.Nodup ∧ a ∈ before

theorem FirstRepeat.not_nodup (h : FirstRepeat items a) : ¬ items.Nodup := by
  obtain ⟨before, after, rfl, -, again⟩ := h
  intro distinct
  exact (List.nodup_append.1 distinct).2.2 a again a List.mem_cons_self rfl

/-- What equals one of different items before it is the first to do so, and no other. -/
theorem firstRepeat_append_iff (distinct : seen.Nodup) (again : a ∈ seen) :
    FirstRepeat (seen ++ a :: rest) b ↔ a = b := by
  constructor
  · rintro ⟨before, after, split, distinct', again'⟩
    rcases List.append_eq_append_iff.1 split with ⟨between, rfl, tail⟩ | ⟨between, rfl, tail⟩
    · cases between with
      | nil => exact (List.cons.inj tail).1
      | cons c between =>
        obtain rfl := (List.cons.inj tail).1
        exact absurd rfl ((List.nodup_append.1 distinct').2.2 a again a List.mem_cons_self)
    · cases between with
      | nil => exact (List.cons.inj tail).1.symm
      | cons c between =>
        obtain rfl := (List.cons.inj tail).1
        exact absurd rfl ((List.nodup_append.1 distinct).2.2 b again' b List.mem_cons_self)
  · rintro rfl
    exact ⟨seen, rest, rfl, distinct, again⟩

theorem FirstRepeat.unique (h : FirstRepeat items a) (h' : FirstRepeat items b) : a = b := by
  obtain ⟨before, after, rfl, distinct, again⟩ := h
  exact (firstRepeat_append_iff distinct again).1 h'

theorem exists_firstRepeat_append_iff (distinct : seen.Nodup) :
    (∃ a, FirstRepeat (seen ++ rest) a) ↔ ¬ (seen ++ rest).Nodup := by
  constructor
  · rintro ⟨a, h⟩
    exact h.not_nodup
  · intro repeated
    induction rest generalizing seen with
    | nil => exact absurd (by simpa using distinct) repeated
    | cons a rest ih =>
      by_cases again : a ∈ seen
      · exact ⟨a, (firstRepeat_append_iff distinct again).2 rfl⟩
      · have next : seen ++ a :: rest = seen ++ [a] ++ rest := by simp
        rw [next] at repeated ⊢
        exact ih (by grind [List.nodup_append]) repeated

theorem exists_firstRepeat_iff : (∃ a, FirstRepeat items a) ↔ ¬ items.Nodup :=
  exists_firstRepeat_append_iff List.nodup_nil

end FuseVolumes
