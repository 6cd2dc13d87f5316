import FuseVolumes.Dict
import Mathlib.Data.List.Sort

/-! Lookups in lists of pairs, and in maps after some of their values are set. Texts in order, each
once. -/

namespace FuseVolumes.Dict

section Pairs

variable {α β : Type} [BEq α] [LawfulBEq α]

/-- Without the pairs of a key, that key has no value and the others have theirs. -/
theorem lookup_filter_ne (pairs : List (α × β)) (a b : α) :
    (pairs.filter (·.1 != a)).lookup b = if b == a then none else pairs.lookup b := by
  induction pairs with
  | nil => simp
  | cons pair pairs ih =>
    obtain ⟨key, value⟩ := pair
    by_cases hb : b = key
    · subst hb
      by_cases hk : b = a
      · subst hk; simpa using ih
      · simp [hk]
    · have hbeq : (b == key) = false := by simpa using hb
      by_cases hk : key = a
      · subst hk; simpa [List.lookup_cons, hbeq] using ih
      · simp [List.lookup_cons, hk, hbeq, ih]

end Pairs

/-! ## Maps -/

section Maps

variable {d : Dict} {pairs : List (String × String)} {key : String}

/-- A key occurs at most once. -/
def IsMap (d : Dict) : Prop := (d.map Prod.fst).Nodup

instance (d : Dict) : Decidable d.IsMap := inferInstanceAs (Decidable (d.map Prod.fst).Nodup)

theorem get?_cons (k value : String) (d : Dict) (key : String) :
    get? ((k, value) :: d) key = if key = k then some value else get? d key := by
  rw [get?, List.lookup_cons]
  by_cases h : key = k
  · rw [if_pos h, beq_iff_eq.2 h]
  · rw [if_neg h, beq_eq_false_iff_ne.2 h]
    rfl

theorem eq_nil_iff : d = [] ↔ ∀ key, d.get? key = none := by
  constructor
  · rintro rfl key
    rfl
  · intro none
    match d with
    | [] => rfl
    | (k, value) :: d =>
      have first := none k
      rw [get?_cons, if_pos rfl] at first
      cases first

theorem get?_insert (d : Dict) (k value key : String) :
    (d.insert k value).get? key = if key = k then some value else d.get? key := by
  induction d with
  | nil => exact get?_cons k value [] key
  | cons pair d ih =>
    obtain ⟨k', value'⟩ := pair
    by_cases hk : k' = k
    · rw [insert, if_pos (beq_iff_eq.2 hk), get?_cons, get?_cons, hk]
      split <;> rfl
    · rw [insert, if_neg (by simpa using hk), get?_cons, get?_cons, ih]
      by_cases h : key = k'
      · have other : key ≠ k := fun h' => hk (h.symm.trans h')
        rw [if_pos h, if_neg other, if_pos h]
      · rw [if_neg h, if_neg h]

theorem get?_eq_some_iff (h : IsMap d) {value : String} :
    d.get? key = some value ↔ (key, value) ∈ d := by
  induction d with
  | nil => simp [get?]
  | cons pair d ih =>
    obtain ⟨k, value'⟩ := pair
    obtain ⟨new, rest⟩ := List.nodup_cons.1 h
    rw [get?_cons, List.mem_cons, Prod.mk.injEq]
    by_cases same : key = k
    · subst same
      have later : (key, value) ∉ d := fun mem => new (List.mem_map.2 ⟨_, mem, rfl⟩)
      rw [if_pos rfl, or_iff_left later, Option.some.injEq]
      exact ⟨fun h => ⟨rfl, h.symm⟩, fun h => h.2.symm⟩
    · rw [if_neg same, ih rest, or_iff_right fun h => same h.1]

theorem get?_eq_none_iff : d.get? key = none ↔ key ∉ d.map Prod.fst := by
  induction d with
  | nil => simp [get?]
  | cons pair d ih =>
    rw [get?_cons, List.map_cons, List.mem_cons, not_or, ← ih]
    split
    next same => exact iff_of_false nofun fun h => h.1 same
    next other => exact (and_iff_right other).symm

/-- In which order a map lists its pairs does not count. -/
theorem get?_perm {d' : Dict} (same : d.Perm d') (h : IsMap d) (key : String) :
    d.get? key = d'.get? key := by
  have h' : IsMap d' := (same.map Prod.fst).nodup_iff.1 h
  refine Option.ext fun value => ?_
  rw [get?_eq_some_iff h, get?_eq_some_iff h', same.mem_iff]

theorem get?_of_filled? {value : String} (h : d.filled? key = some value) :
    d.get? key = some value := by
  unfold filled? at h
  split at h
  next value' there =>
    split at h
    · cases h
    · cases h
      exact there
  next => cases h

theorem get?_insertAll_of_ne (h : ∀ pair ∈ pairs, pair.1 ≠ key) :
    (insertAll d pairs).get? key = d.get? key := by
  induction pairs generalizing d with
  | nil => rfl
  | cons pair pairs ih =>
    obtain ⟨first, rest⟩ := List.forall_mem_cons.1 h
    change (insertAll (d.insert pair.1 pair.2) pairs).get? key = d.get? key
    rw [ih rest, get?_insert, if_neg first.symm]

/-- Of distinct keys, those that are set have their new values. -/
theorem get?_insertAll (distinct : IsMap pairs) :
    (insertAll d pairs).get? key = (get? pairs key).or (d.get? key) := by
  induction pairs generalizing d with
  | nil => rfl
  | cons pair pairs ih =>
    obtain ⟨k, value⟩ := pair
    obtain ⟨new, rest⟩ := List.nodup_cons.1 distinct
    change (insertAll (d.insert k value) pairs).get? key = _
    by_cases h : key = k
    · have last : ∀ pair ∈ pairs, pair.1 ≠ key := by
        rintro pair hpair rfl
        exact new (List.mem_map.2 ⟨pair, hpair, h⟩)
      rw [get?_insertAll_of_ne last, get?_insert, get?_cons, if_pos h, if_pos h]
      rfl
    · rw [ih rest, get?_insert, get?_cons, if_neg h, if_neg h]

/-! ### Keys and size -/

/-- A key that is set keeps its place, and a new one is the last. -/
theorem keys_insert (d : Dict) (k value : String) :
    (d.insert k value).map Prod.fst =
      if k ∈ d.map Prod.fst then d.map Prod.fst else d.map Prod.fst ++ [k] := by
  induction d with
  | nil => simp [insert]
  | cons pair d ih =>
    obtain ⟨k', value'⟩ := pair
    by_cases h : k' = k
    · subst h
      simp [insert]
    · have before : insert ((k', value') :: d) k value = (k', value') :: insert d k value := by
        simp [insert, h]
      rw [before, List.map_cons, ih, List.map_cons]
      have later : k ≠ k' := fun same => h same.symm
      by_cases known : k ∈ d.map Prod.fst <;> simp [known, later]

theorem mem_keys_insertAll {pairs : List (String × String)} :
    key ∈ (d.insertAll pairs).map Prod.fst ↔
      key ∈ d.map Prod.fst ∨ key ∈ pairs.map Prod.fst := by
  induction pairs generalizing d with
  | nil => simp [insertAll]
  | cons pair pairs ih =>
    obtain ⟨k, value⟩ := pair
    change key ∈ ((d.insert k value).insertAll pairs).map Prod.fst ↔ _
    rw [ih, keys_insert, List.map_cons, List.mem_cons]
    split
    next known =>
      constructor
      · rintro (h | h)
        · exact .inl h
        · exact .inr (.inr h)
      · rintro (h | rfl | h)
        · exact .inl h
        · exact .inl known
        · exact .inr h
    next new => rw [List.mem_append, List.mem_singleton, or_assoc]

theorem IsMap.insert (h : IsMap d) (k value : String) : IsMap (d.insert k value) := by
  rw [IsMap, keys_insert]
  split
  next => exact h
  next new => grind [IsMap, List.nodup_append]

theorem IsMap.insertAll (h : IsMap d) (pairs : List (String × String)) :
    IsMap (d.insertAll pairs) := by
  induction pairs generalizing d with
  | nil => exact h
  | cons pair pairs ih => exact ih (h.insert pair.1 pair.2)

theorem length_insert (d : Dict) (k value : String) :
    (d.insert k value).length = if k ∈ d.map Prod.fst then d.length else d.length + 1 := by
  have keys := congrArg List.length (keys_insert d k value)
  rw [List.length_map] at keys
  rw [keys]
  split <;> simp

theorem length_insertAll_le (d : Dict) (pairs : List (String × String)) :
    (d.insertAll pairs).length ≤ d.length + pairs.length := by
  induction pairs generalizing d with
  | nil => exact Nat.le_refl _
  | cons pair pairs ih =>
    have rest := ih (d.insert pair.1 pair.2)
    have first : (d.insert pair.1 pair.2).length ≤ d.length + 1 := by
      rw [length_insert]
      split <;> omega
    change ((d.insert pair.1 pair.2).insertAll pairs).length ≤ _
    rw [List.length_cons]
    omega

/-- Every pair that is set makes a map larger exactly when all their keys are new. -/
theorem length_insertAll_eq_iff (d : Dict) (pairs : List (String × String)) :
    (d.insertAll pairs).length = d.length + pairs.length ↔
      IsMap pairs ∧ ∀ key ∈ pairs.map Prod.fst, key ∉ d.map Prod.fst := by
  induction pairs generalizing d with
  | nil => simp [Dict.insertAll, IsMap]
  | cons pair pairs ih =>
    obtain ⟨k, value⟩ := pair
    change ((d.insert k value).insertAll pairs).length = _ ↔ _
    have size := length_insert d k value
    have keys := keys_insert d k value
    by_cases known : k ∈ d.map Prod.fst
    · rw [if_pos known] at size
      have bound := length_insertAll_le (d.insert k value) pairs
      refine iff_of_false ?_ fun h => h.2 k List.mem_cons_self known
      rw [List.length_cons]
      omega
    · rw [if_neg known] at size keys
      have grown : d.length + ((k, value) :: pairs).length =
          (d.insert k value).length + pairs.length := by
        rw [List.length_cons]
        omega
      rw [grown, ih, keys, IsMap, IsMap, List.map_cons, List.nodup_cons, List.forall_mem_cons]
      simp only [List.mem_append, List.mem_singleton, not_or]
      constructor
      · rintro ⟨distinct, fresh⟩
        exact ⟨⟨fun again => (fresh k again).2 rfl, distinct⟩, known,
          fun key h => (fresh key h).1⟩
      · rintro ⟨⟨once, distinct⟩, -, fresh⟩
        refine ⟨distinct, fun key h => ⟨fresh key h, ?_⟩⟩
        rintro rfl
        exact once h

/-! ### Keys written in another way -/

/-- Keys that are written in another way are as many. -/
theorem IsMap.map {f : String → String} (inj : ∀ k k', f k = f k' → k = k') (h : IsMap d) :
    IsMap (d.map fun (k, value) => (f k, value)) := by
  have keys : (d.map fun (k, value) => (f k, value)).map Prod.fst = (d.map Prod.fst).map f := by
    rw [List.map_map, List.map_map]
    rfl
  rw [IsMap, keys]
  exact List.pairwise_map.2 (List.Pairwise.imp (fun ne same => ne (inj _ _ same)) h)

/-- Keys that are written in another way keep their values. -/
theorem get?_map {f : String → String} (inj : ∀ k k', f k = f k' → k = k') (d : Dict)
    (key : String) : get? (d.map fun (k, value) => (f k, value)) (f key) = get? d key := by
  induction d with
  | nil => rfl
  | cons pair d ih =>
    obtain ⟨k, value⟩ := pair
    rw [List.map_cons, get?_cons, get?_cons, ih]
    by_cases h : key = k
    · rw [if_pos h, if_pos (congrArg f h)]
    · rw [if_neg h, if_neg fun same => h (inj key k same)]

end Maps

end FuseVolumes.Dict

namespace FuseVolumes

/-! ## Texts in order -/

@[simp] theorem mem_insertOrdered {s t : String} {items : List String} :
    t ∈ insertOrdered s items ↔ t = s ∨ t ∈ items := by
  induction items with
  | nil => simp [insertOrdered]
  | cons first items ih =>
    by_cases same : s = first
    · simp [insertOrdered, same]
    · by_cases less : s < first
      · simp [insertOrdered, same, less]
      · simp only [insertOrdered, beq_iff_eq, same, less, ↓reduceIte, List.mem_cons, ih]
        exact or_left_comm

theorem pairwise_insertOrdered {s : String} {items : List String}
    (ordered : items.Pairwise (· < ·)) : (insertOrdered s items).Pairwise (· < ·) := by
  induction items with
  | nil => simp [insertOrdered]
  | cons first items ih =>
    obtain ⟨above, rest⟩ := List.pairwise_cons.1 ordered
    by_cases same : s = first
    · simpa [insertOrdered, same] using ordered
    · by_cases less : s < first
      · simp only [insertOrdered, beq_iff_eq, same, less, ↓reduceIte]
        refine List.pairwise_cons.2 ⟨?_, ordered⟩
        intro t h
        rcases List.mem_cons.1 h with rfl | h
        · exact less
        · exact String.lt_trans less (above t h)
      · have greater : first < s := Std.lt_of_le_of_ne (String.not_lt.1 less) (Ne.symm same)
        simp only [insertOrdered, beq_iff_eq, same, less, ↓reduceIte]
        refine List.pairwise_cons.2 ⟨?_, ih rest⟩
        intro t h
        rcases mem_insertOrdered.1 h with rfl | h
        · exact greater
        · exact above t h

@[simp] theorem mem_orderedSet {t : String} {items : List String} :
    t ∈ orderedSet items ↔ t ∈ items := by
  induction items with
  | nil => simp [orderedSet]
  | cons s items ih =>
    rw [orderedSet, List.foldr_cons, ← orderedSet, mem_insertOrdered, ih, List.mem_cons]

theorem pairwise_orderedSet (items : List String) : (orderedSet items).Pairwise (· < ·) := by
  induction items with
  | nil => simp [orderedSet]
  | cons s items ih => exact pairwise_insertOrdered ih

/-- There is one list only that has the items in order and each once. -/
theorem orderedSet_eq_iff {items ordered : List String} : orderedSet items = ordered ↔
    ordered.Pairwise (· < ·) ∧ ∀ t, t ∈ ordered ↔ t ∈ items := by
  constructor
  · rintro rfl
    exact ⟨pairwise_orderedSet items, fun t => mem_orderedSet⟩
  · rintro ⟨sorted, same⟩
    have : Std.Irrefl (α := String) (· < ·) := ⟨String.lt_irrefl⟩
    have : Std.Antisymm (α := String) (· < ·) :=
      ⟨fun s t less greater => absurd (String.lt_trans less greater) (String.lt_irrefl s)⟩
    refine (pairwise_orderedSet items).eq_of_mem_iff sorted fun t => ?_
    rw [mem_orderedSet, same]

end FuseVolumes
