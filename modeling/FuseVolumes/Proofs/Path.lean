import FuseVolumes.Path
import FuseVolumes.Proofs.Text.Words

/-!
Paths put together from parts. Behind a base, parts that neither begin nor end in a slash can be
told from the whole: their pieces are the pieces of the path (`joinAll_inj`). A name is one piece.
-/

namespace FuseVolumes.Path

/-! ## Parts -/

/-- A part that can stand between slashes. -/
def IsPart (part : String) : Prop :=
  part.toList ≠ [] ∧ part.toList.head? ≠ some '/' ∧ part.toList.getLast? ≠ some '/'

instance (part : String) : Decidable (IsPart part) :=
  inferInstanceAs (Decidable (_ ∧ _))

/-- A part that is one piece. -/
def IsName (name : String) : Prop := name ≠ "" ∧ '/' ∉ name.toList

instance (name : String) : Decidable (IsName name) :=
  inferInstanceAs (Decidable (_ ∧ _))

theorem IsName.isPart {name : String} (h : IsName name) : IsPart name := by
  refine ⟨?_, fun head => h.2 (List.mem_of_head? head), fun last => h.2 (List.mem_of_getLast? last)⟩
  simpa using h.1

theorem IsName.pieces {name : String} (h : IsName name) : Path.pieces name = [name.toList] :=
  Text.pieces_eq_self fun c hc => by
    rw [beq_eq_false_iff_ne]
    rintro rfl
    exact h.2 hc

theorem isName_toString (n : Nat) : IsName (toString n) := by
  have digits : (toString n).toList = Nat.toDigits 10 n := String.toList_ofList
  constructor
  · intro none
    rw [none] at digits
    exact Nat.toDigits_ne_nil digits.symm
  · rw [digits]
    intro h
    exact absurd (Nat.isDigit_of_mem_toDigits (by decide) (by decide) h) (by decide)

/-- A path that another one leads through, by its text. -/
def Above (other path : String) : Prop := ∃ rest, path = other ++ "/" ++ rest

/-! ## Joining -/

/-- What stands before a part that is joined to the base. -/
def stem (base : String) : List Char :=
  if base.isEmpty || endsInSlash base then base.toList else base.toList ++ ['/']

theorem join_toList_of_relative (base : String) {part : String} (relative : isAbsolute part = false) :
    (join base part).toList = stem base ++ part.toList := by
  rw [join, stem, relative]
  simp only [Bool.false_eq_true, if_false]
  split
  · rw [String.toList_append]
  · rw [String.toList_append, String.toList_append]
    rfl

theorem IsPart.relative {part : String} (h : IsPart part) : isAbsolute part = false := by
  rw [isAbsolute]
  split
  next rest hrest => exact absurd (by rw [hrest]; rfl) h.2.1
  next => rfl

theorem join_toList (base : String) {part : String} (h : IsPart part) :
    (join base part).toList = stem base ++ part.toList :=
  join_toList_of_relative base h.relative

/-- What stands before a part is empty or ends in a slash. -/
theorem stem_cases (base : String) : stem base = [] ∨ ∃ above, stem base = above ++ ['/'] := by
  rw [stem]
  split
  next h =>
    rcases Bool.or_eq_true_iff.1 h with none | slash
    · exact .inl (by simpa using none)
    · exact .inr (List.getLast?_eq_some_iff.1 (eq_of_beq slash))
  next => exact .inr ⟨_, rfl⟩

/-- A name that is joined to a base is the last piece of the whole. -/
theorem getLast?_pieces_join (base : String) {name : String} (h : IsName name) :
    (pieces (join base name)).getLast? = some name.toList := by
  have alone : Text.pieces (· == '/') name.toList = [name.toList] := h.pieces
  rw [pieces, join_toList base h.isPart]
  rcases stem_cases base with none | ⟨above, slash⟩
  · rw [none, List.nil_append, alone, List.getLast?_singleton]
  · rw [slash, List.append_assoc, List.singleton_append, Text.pieces_append rfl, alone,
      List.getLast?_concat]

theorem name_eq_of_join_eq {base base' name name' : String} (h : IsName name) (h' : IsName name')
    (same : join base name = join base' name') : name = name' := by
  have last := getLast?_pieces_join base h
  rw [same, getLast?_pieces_join base' h', Option.some.injEq] at last
  exact (String.toList_inj.1 last).symm

theorem endsInSlash_join (base : String) {part : String} (h : IsPart part) :
    endsInSlash (join base part) = false := by
  rw [endsInSlash, join_toList base h, beq_eq_false_iff_ne, List.getLast?_append,
    List.getLast?_eq_some_getLast h.1, Option.some_or, ← List.getLast?_eq_some_getLast h.1]
  exact h.2.2

theorem stem_join (base : String) {part : String} (h : IsPart part) :
    stem (join base part) = stem base ++ part.toList ++ ['/'] := by
  have whole := join_toList base h
  have filled : (join base part).isEmpty = false := by
    rw [String.isEmpty_eq_false_iff]
    intro none
    rw [none] at whole
    exact h.1 (List.append_eq_nil_iff.1 whole.symm).2
  rw [stem, filled, endsInSlash_join base h, whole]
  rfl

theorem joinAll_toList (base : String) {parts : List String} (filled : parts ≠ [])
    (h : ∀ part ∈ parts, IsPart part) :
    (joinAll base parts).toList = stem base ++ ['/'].intercalate (parts.map String.toList) := by
  induction parts generalizing base with
  | nil => exact absurd rfl filled
  | cons part rest ih =>
    obtain ⟨hpart, hrest⟩ := List.forall_mem_cons.1 h
    cases rest with
    | nil => simpa [joinAll] using join_toList base hpart
    | cons next rest =>
      change (joinAll (join base part) (next :: rest)).toList = _
      rw [ih _ (List.cons_ne_nil _ _) hrest, stem_join base hpart]
      simp only [List.map_cons, List.intercalate_cons_cons, List.append_assoc]

theorem pieces_intercalate (texts : List (List Char)) (filled : texts ≠ []) :
    Text.pieces (· == '/') (['/'].intercalate texts) = texts.flatMap (Text.pieces (· == '/')) := by
  induction texts with
  | nil => exact absurd rfl filled
  | cons text texts ih =>
    cases texts with
    | nil => simp
    | cons next texts =>
      rw [List.intercalate_cons_cons, List.append_assoc, List.singleton_append,
        Text.pieces_append rfl, ih (List.cons_ne_nil _ _), ← List.flatMap_cons]

/-- One path put together in two ways has the same pieces both times. -/
theorem joinAll_inj {base : String} {parts parts' : List String}
    (filled : parts ≠ []) (filled' : parts' ≠ []) (h : ∀ part ∈ parts, IsPart part)
    (h' : ∀ part ∈ parts', IsPart part) (same : joinAll base parts = joinAll base parts') :
    parts.flatMap pieces = parts'.flatMap pieces := by
  have texts := congrArg String.toList same
  rw [joinAll_toList base filled h, joinAll_toList base filled' h'] at texts
  have cut := congrArg (Text.pieces (· == '/')) (List.append_cancel_left texts)
  rw [pieces_intercalate _ (by simpa using filled), pieces_intercalate _ (by simpa using filled'),
    List.flatMap_map, List.flatMap_map] at cut
  exact cut

end FuseVolumes.Path
