import FuseVolumes.Text.Blank

/-!
# Pieces and words

Cutting a text that was put together with a separator cuts each of its parts (`pieces_append`,
`words_append`), so words survive being joined and cut again exactly when each is a word already
(`words_intercalate_eq_iff`). A text is looked for in another one as a part of it
(`contains_iff`).
-/

namespace FuseVolumes.Text

/-! ## Pieces -/

section Pieces

variable {sep : Char → Bool}

theorem pieces_ne_nil (sep : Char → Bool) (text : List Char) : pieces sep text ≠ [] := by
  fun_cases pieces sep text <;> simp

/-- A separator stands between the pieces of what is before it and of what is behind it. -/
theorem pieces_append {s : Char} (hs : sep s = true) (a b : List Char) :
    pieces sep (a ++ s :: b) = pieces sep a ++ pieces sep b := by
  induction a with
  | nil => simp [pieces, hs]
  | cons c a ih =>
    by_cases hc : sep c = true
    · simp [pieces, hc, ih]
    · obtain ⟨piece, others, ha⟩ := List.exists_cons_of_ne_nil (pieces_ne_nil sep a)
      simp [pieces, hc, ih, ha]

theorem pieces_eq_self {text : List Char} (h : ∀ c ∈ text, sep c = false) :
    pieces sep text = [text] := by
  induction text with
  | nil => rfl
  | cons c text ih =>
    obtain ⟨hc, htext⟩ := List.forall_mem_cons.1 h
    simp [pieces, hc, ih htext]

/-- Parts that hold no separator are cut again where they were joined. -/
theorem pieces_intercalate {s : Char} (hs : sep s = true) {parts : List (List Char)}
    (some : parts ≠ []) (h : ∀ part ∈ parts, ∀ c ∈ part, sep c = false) :
    pieces sep ([s].intercalate parts) = parts := by
  induction parts with
  | nil => exact absurd rfl some
  | cons part parts ih =>
    obtain ⟨hpart, hparts⟩ := List.forall_mem_cons.1 h
    cases parts with
    | nil => rw [List.intercalate_singleton, pieces_eq_self hpart]
    | cons next parts =>
      rw [List.intercalate_cons_cons, List.append_assoc, List.singleton_append, pieces_append hs,
        pieces_eq_self hpart, ih (List.cons_ne_nil _ _) hparts, List.singleton_append]

/-- What was cut at one separator is the same again when it is joined. -/
theorem intercalate_pieces (s : Char) (text : List Char) :
    [s].intercalate (pieces (· == s) text) = text := by
  induction text with
  | nil => rfl
  | cons c text ih =>
    obtain ⟨first, others, cut⟩ := List.exists_cons_of_ne_nil (pieces_ne_nil (· == s) text)
    rw [cut] at ih
    by_cases h : c = s
    · subst h
      have apart : pieces (· == c) (c :: text) = [] :: first :: others := by simp [pieces, cut]
      rw [apart, List.intercalate_cons_cons, ih]
      rfl
    · have longer : pieces (· == s) (c :: text) = (c :: first) :: others := by simp [pieces, h, cut]
      rw [longer]
      cases others with
      | nil => simpa using ih
      | cons next others =>
        rw [List.intercalate_cons_cons] at ih ⊢
        rw [List.cons_append, List.cons_append, ih]

/-- The first part, and every other one behind a separator. -/
theorem intercalate_cons (separator first : List Char) (others : List (List Char)) :
    separator.intercalate (first :: others) = first ++ (others.map (separator ++ ·)).flatten := by
  induction others generalizing first with
  | nil => simp
  | cons next others ih => simp [List.intercalate_cons_cons, ih]

theorem forall_mem_intercalate {P : Char → Prop} {separator : List Char}
    {parts : List (List Char)} (hs : ∀ c ∈ separator, P c) (h : ∀ part ∈ parts, ∀ c ∈ part, P c) :
    ∀ c ∈ separator.intercalate parts, P c := by
  induction parts with
  | nil => simp
  | cons part parts ih =>
    obtain ⟨hpart, hparts⟩ := List.forall_mem_cons.1 h
    cases parts with
    | nil => simpa using hpart
    | cons next parts =>
      rw [List.intercalate_cons_cons]
      exact List.forall_mem_append.2 ⟨List.forall_mem_append.2 ⟨hpart, hs⟩, ih hparts⟩

/-- No piece holds a separator. -/
theorem sep_of_mem_pieces {text piece : List Char} (h : piece ∈ pieces sep text) :
    ∀ c ∈ piece, sep c = false := by
  induction text generalizing piece with
  | nil =>
    obtain rfl := List.mem_singleton.1 h
    simp
  | cons c text ih =>
    obtain ⟨first, others, ht⟩ := List.exists_cons_of_ne_nil (pieces_ne_nil sep text)
    simp only [ht, List.mem_cons] at ih
    by_cases hc : sep c = true
    · simp only [pieces, hc, if_true, ht, List.mem_cons] at h
      rcases h with rfl | h
      · simp
      · exact ih h
    · simp only [pieces, hc, Bool.false_eq_true, if_false, ht, List.mem_cons] at h
      rcases h with rfl | h
      · exact List.forall_mem_cons.2 ⟨Bool.eq_false_iff.2 hc, ih (.inl rfl)⟩
      · exact ih (.inr h)

end Pieces

/-! ## Words -/

/-- A text without blanks that is not empty. -/
def IsWord (text : List Char) : Prop :=
  text ≠ [] ∧ ∀ c ∈ text, isBlank c = false

instance (text : List Char) : Decidable (IsWord text) :=
  decidable_of_iff (text ≠ [] ∧ text.all (!isBlank ·)) (by simp [IsWord])

theorem isWord_of_mem_words {text word : List Char} (h : word ∈ words text) : IsWord word := by
  obtain ⟨piece, filled⟩ := List.mem_filter.1 h
  refine ⟨?_, sep_of_mem_pieces piece⟩
  rintro rfl
  cases filled

theorem words_of_isWord {word : List Char} (h : IsWord word) : words word = [word] := by
  rw [words, pieces_eq_self h.2]
  simp [h.1]

theorem words_append {s : Char} (hs : isBlank s = true) (a b : List Char) :
    words (a ++ s :: b) = words a ++ words b := by
  rw [words, pieces_append hs, List.filter_append, words, words]

theorem words_intercalate (texts : List (List Char)) :
    words ([' '].intercalate texts) = texts.flatMap words := by
  induction texts with
  | nil => rfl
  | cons text texts ih =>
    cases texts with
    | nil => simp
    | cons next texts =>
      rw [List.intercalate_cons_cons, List.append_assoc, List.singleton_append,
        words_append rfl, ih, ← List.flatMap_cons]

/-- Texts that are joined and cut again come back exactly when each is a word. -/
theorem words_intercalate_eq_iff (texts : List (List Char)) :
    words ([' '].intercalate texts) = texts ↔ ∀ text ∈ texts, IsWord text := by
  rw [words_intercalate]
  constructor
  · intro same text h
    rw [← same] at h
    obtain ⟨source, -, h⟩ := List.mem_flatMap.1 h
    exact isWord_of_mem_words h
  · intro h
    induction texts with
    | nil => rfl
    | cons text texts ih =>
      obtain ⟨first, others⟩ := List.forall_mem_cons.1 h
      rw [List.flatMap_cons, words_of_isWord first, ih others, List.singleton_append]

/-- `words_intercalate_eq_iff` on strings. -/
theorem words_of_line_eq_iff (texts : List String) :
    (words (" ".intercalate texts).toList).map String.ofList = texts ↔
      ∀ text ∈ texts, IsWord text.toList := by
  have cut := words_intercalate_eq_iff (texts.map String.toList)
  rw [List.forall_mem_map] at cut
  rw [← cut, String.toList_intercalate, show " ".toList = [' '] from rfl]
  constructor
  · intro same
    have chars := congrArg (List.map String.toList) same
    simpa [Function.comp_def] using chars
  · intro same
    rw [same, List.map_map]
    simp [Function.comp_def]

/-! ## Parts -/

theorem contains_iff {part text : List Char} : contains part text = true ↔ part <:+: text := by
  induction text with
  | nil => simp [contains]
  | cons c text ih =>
    rw [contains, Bool.or_eq_true, List.isPrefixOf_iff_prefix, ih, List.infix_cons_iff]

end FuseVolumes.Text
