import FuseVolumes.Proofs.Path

/-!
# Places of paths

Where a path leads is told by its pieces alone, as long as there are no links (`place`): pieces that
name nothing are passed over, and two dots lead out of the last name. A path that is relative, names
something and does not lead out is `Local`. Joined to a base it leads below the base (`below_join`),
and two of them lead to one place below it if and only if they do so without it
(`place_join_eq_iff`). A path that is `Plain` leads to what its pieces say, wherever it is joined to
(`place_joinAll`); a name is plain unless it is one dot or two.
-/

namespace FuseVolumes.Path

/-! ## Places -/

/-- The piece that leads out of a directory. -/
def out : List Char := ['.', '.']

/-- From names, the last one first, to those after one more piece. What leads out of a relative path
is kept. -/
def step (absolute : Bool) (names : List (List Char)) (piece : List Char) : List (List Char) :=
  if piece = [] ∨ piece = ['.'] then names
  else if piece = out then
    match names with
    | [] => if absolute then [] else [out]
    | last :: rest => if last = out then out :: last :: rest else rest
  else piece :: names

/-- Where a path leads: from the root or not, and the names on the way, the last one first. -/
structure Place where
  absolute : Bool
  names : List (List Char)
  deriving DecidableEq, Repr

def place (path : String) : Place :=
  ⟨isAbsolute path, (pieces path).foldl (step (isAbsolute path)) []⟩

/-- A path that is relative, names something and does not lead out of where it is used. -/
def Local (path : String) : Prop :=
  isAbsolute path = false ∧ (place path).names ≠ [] ∧ out ∉ (place path).names

instance (path : String) : Decidable (Local path) := inferInstanceAs (Decidable (_ ∧ _ ∧ _))

/-- A path that leads to something within another one. -/
def Below (base path : String) : Prop :=
  (place path).absolute = (place base).absolute ∧ ∃ names, names ≠ [] ∧ out ∉ names ∧
    (place path).names = names ++ (place base).names

/-! ## Steps -/

variable {absolute : Bool} {names base : List (List Char)} {piece : List Char}

/-- Nothing leads back once a relative path has led out. -/
theorem out_mem_step (h : out ∈ names) : out ∈ step absolute names piece := by
  unfold step
  split
  · exact h
  · split
    · cases names with
      | nil => cases h
      | cons last rest =>
        dsimp only
        split
        · exact List.mem_cons_self
        next inner =>
          rcases List.mem_cons.1 h with same | h
          · exact absurd same.symm inner
          · exact h
    · exact List.mem_cons_of_mem _ h

theorem out_mem_foldl_step {rest : List (List Char)} (h : out ∈ names) :
    out ∈ rest.foldl (step absolute) names := by
  induction rest generalizing names with
  | nil => exact h
  | cons piece rest ih => exact ih (out_mem_step h)

/-- A step that does not lead out is the same wherever it is made. -/
theorem step_append (h : out ∉ step false names piece) :
    step absolute (names ++ base) piece = step false names piece ++ base := by
  unfold step at h ⊢
  split
  · rfl
  next named =>
    rw [if_neg named] at h
    split
    next leads =>
      rw [if_pos leads] at h
      cases names with
      | nil => exact absurd List.mem_cons_self h
      | cons last rest =>
        dsimp only [List.cons_append] at h ⊢
        split
        next outer =>
          rw [if_pos outer] at h
          exact absurd List.mem_cons_self h
        · rfl
    · rfl

theorem foldl_step_append {rest : List (List Char)} (h : out ∉ rest.foldl (step false) names) :
    rest.foldl (step absolute) (names ++ base) = rest.foldl (step false) names ++ base := by
  induction rest generalizing names with
  | nil => rfl
  | cons piece rest ih =>
    rw [List.foldl_cons] at h
    rw [List.foldl_cons, List.foldl_cons]
    have stays : out ∉ step false names piece := fun leads => h (out_mem_foldl_step leads)
    rw [step_append stays]
    exact ih h

/-! ## Joining -/

theorem isAbsolute_eq (path : String) : isAbsolute path = (path.toList.head? == some '/') := by
  rw [isAbsolute]
  split
  next rest h => rw [h]; rfl
  next other =>
    cases h : path.toList with
    | nil => rfl
    | cons c rest =>
      symm
      rw [List.head?_cons, beq_eq_false_iff_ne]
      rintro ⟨⟩
      exact other rest h

/-- A joined path is relative or not as its base is. -/
theorem isAbsolute_join (base : String) {part : String} (relative : isAbsolute part = false) :
    isAbsolute (join base part) = isAbsolute base := by
  rw [isAbsolute_eq, isAbsolute_eq, join_toList_of_relative base relative, stem]
  cases h : base.toList with
  | nil =>
    have none : base.isEmpty = true := by simpa using h
    rw [none, ← h]
    rw [isAbsolute_eq] at relative
    simpa [h] using relative
  | cons c rest => split <;> rfl

/-- Up to a part, a joined path leads where its base does. -/
theorem place_join (base : String) {part : String} (relative : isAbsolute part = false) :
    place (join base part) = ⟨(place base).absolute,
      (pieces part).foldl (step (isAbsolute base)) (place base).names⟩ := by
  have skip (absolute : Bool) (names : List (List Char)) : step absolute names [] = names :=
    if_pos (.inl rfl)
  have slash (a b : List Char) : Text.pieces (· == '/') (a ++ '/' :: b) =
      Text.pieces (· == '/') a ++ Text.pieces (· == '/') b := Text.pieces_append rfl a b
  unfold place
  rw [isAbsolute_join base relative]
  congr 1
  rw [pieces, join_toList_of_relative base relative, stem]
  split
  next ends =>
    rcases Bool.or_eq_true_iff.1 ends with none | ended
    · have empty : base.toList = [] := by simpa using none
      rw [pieces, empty]
      rfl
    · obtain ⟨above, split⟩ := List.getLast?_eq_some_iff.1 (eq_of_beq ended)
      rw [pieces, pieces, split, List.append_assoc, List.singleton_append,
        slash, slash, List.foldl_append, List.foldl_append]
      simp [Text.pieces, skip]
  next =>
    rw [pieces, List.append_assoc, List.singleton_append, slash, List.foldl_append]
    rfl

theorem place_join_of_local (base : String) {part : String} (h : Local part) :
    place (join base part) =
      ⟨(place base).absolute, (place part).names ++ (place base).names⟩ := by
  obtain ⟨relative, -, stays⟩ := h
  rw [place_join base relative]
  unfold place at stays
  rw [relative] at stays
  have inside : (pieces part).foldl (step (isAbsolute base)) ([] ++ (place base).names) =
      (pieces part).foldl (step false) [] ++ (place base).names := foldl_step_append stays
  rw [List.nil_append] at inside
  rw [inside, place, place, relative]

/-- A local part leads below the base that it is joined to. -/
theorem below_join (base : String) {part : String} (h : Local part) : Below base (join base part) := by
  rw [Below, place_join_of_local base h]
  exact ⟨rfl, _, h.2.1, h.2.2, rfl⟩

/-- Below one base, local parts lead to one place if and only if they do so anywhere. -/
theorem place_join_eq_iff (base : String) {part part' : String} (h : Local part)
    (h' : Local part') : place (join base part) = place (join base part') ↔
      place part = place part' := by
  rw [place_join_of_local base h, place_join_of_local base h', Place.mk.injEq,
    List.append_cancel_right_eq, eq_self, true_and]
  constructor
  · intro same
    unfold place at same ⊢
    rw [h.1, h'.1, Place.mk.injEq]
    rw [h.1, h'.1] at same
    exact ⟨rfl, same⟩
  · intro same
    rw [same]

/-! ## Plain paths -/

/-- A relative path that neither stays anywhere nor leads out, but to what its pieces say. -/
def Plain (path : String) : Prop :=
  isAbsolute path = false ∧ ∀ piece ∈ pieces path, piece ≠ [] ∧ piece ≠ ['.'] ∧ piece ≠ out

instance (path : String) : Decidable (Plain path) := inferInstanceAs (Decidable (_ ∧ _))

theorem IsName.plain_iff {name : String} (h : IsName name) :
    Plain name ↔ name ≠ "." ∧ name ≠ ".." := by
  have some : name.toList ≠ [] := h.isPart.1
  rw [Plain, h.pieces, List.forall_mem_singleton, and_iff_right h.isPart.relative,
    and_iff_right some]
  simp only [ne_eq, ← String.toList_inj]
  rfl

theorem plain_toString (n : Nat) : Plain (toString n) := by
  have digits : (toString n).toList = Nat.toDigits 10 n := Nat.toList_repr
  have dotless {name : String} (dot : '.' ∈ name.toList) : toString n ≠ name := by
    rintro rfl
    rw [digits] at dot
    exact absurd (Nat.isDigit_of_mem_toDigits (by decide) (by decide) dot) (by decide)
  exact (isName_toString n).plain_iff.2 ⟨dotless (by decide), dotless (by decide)⟩

theorem foldl_step_of_plain {rest : List (List Char)}
    (h : ∀ piece ∈ rest, piece ≠ [] ∧ piece ≠ ['.'] ∧ piece ≠ out) :
    rest.foldl (step absolute) names = rest.reverse ++ names := by
  induction rest generalizing names with
  | nil => rfl
  | cons piece rest ih =>
    obtain ⟨⟨some, here, above⟩, plain⟩ := List.forall_mem_cons.1 h
    have first : step absolute names piece = piece :: names := by
      unfold step
      rw [if_neg (not_or.2 ⟨some, here⟩), if_neg above]
    rw [List.foldl_cons, first, ih plain, List.reverse_cons, List.append_assoc,
      List.singleton_append]

/-- Plain parts lead from one to the next below their base. -/
theorem place_joinAll (base : String) {parts : List String} (h : ∀ part ∈ parts, Plain part) :
    place (joinAll base parts) =
      ⟨(place base).absolute, (parts.flatMap pieces).reverse ++ (place base).names⟩ := by
  induction parts generalizing base with
  | nil => rfl
  | cons part parts ih =>
    obtain ⟨first, rest⟩ := List.forall_mem_cons.1 h
    refine (ih (join base part) rest).trans ?_
    rw [place_join base first.1, foldl_step_of_plain first.2, List.flatMap_cons,
      List.reverse_append, List.append_assoc]

end FuseVolumes.Path
