import FuseVolumes.Proofs.Text.Bytes
import FuseVolumes.Proofs.Text.Pattern
import FuseVolumes.Proofs.Text.Words
import FuseVolumes.Secret.Name

/-!
# How names are spelled

The pattern of a label stands for the texts that are spelled well and not empty
(`mem_labelPattern_iff`), whichever of its groups match. The pattern of a domain stands for such
texts with dots between them, and as a label has no dot these are the pieces at which the dots cut
(`mem_domainPattern_iff`). With the lengths: `names_spelled`.
-/

namespace FuseVolumes.Secret

open Text (Pattern)

/-- Lowercase ASCII letters, digits and the hyphen. -/
def IsNameChar (c : Char) : Prop :=
  c.isLower = true ∨ c.isDigit = true ∨ c = '-'

/-- A text of such characters that neither starts nor ends with a hyphen. -/
structure WellSpelled (text : List Char) : Prop where
  letters : ∀ c ∈ text, IsNameChar c
  first : text.head? ≠ some '-'
  last : text.getLast? ≠ some '-'

variable {text middle : List Char} {c d : Char}

/-! ## Characters -/

theorem hyphen_or_isAlphanumeric_iff :
    (c == '-' || isAlphanumeric c) = true ↔ IsNameChar c := by
  have lower : c.isLower = ('a' ≤ c && c ≤ 'z') := rfl
  have digit : c.isDigit = ('0' ≤ c && c ≤ '9') := rfl
  rw [IsNameChar, lower, digit, isAlphanumeric, Bool.or_eq_true, Bool.or_eq_true, beq_iff_eq]
  tauto

theorem isAlphanumeric_iff : isAlphanumeric c = true ↔ IsNameChar c ∧ c ≠ '-' := by
  rw [← hyphen_or_isAlphanumeric_iff, Bool.or_eq_true, beq_iff_eq]
  constructor
  · intro h
    refine ⟨.inr h, ?_⟩
    rintro rfl
    cases h
  · rintro ⟨hyphen | h, ne⟩
    · exact absurd hyphen ne
    · exact h

theorem not_isNameChar_dot : ¬ IsNameChar '.' := by
  unfold IsNameChar
  decide

theorem not_isNameChar_slash : ¬ IsNameChar '/' := by
  unfold IsNameChar
  decide

/-! ## Labels -/

theorem wellSpelled_singleton : WellSpelled [c] ↔ isAlphanumeric c = true := by
  rw [isAlphanumeric_iff]
  constructor
  · intro h
    exact ⟨h.letters c List.mem_cons_self, by simpa using h.first⟩
  · rintro ⟨letter, ne⟩
    exact ⟨by simpa using letter, by simpa using ne, by simpa using ne⟩

/-- A text of two characters or more is told by both ends and by what is between them. -/
theorem wellSpelled_between : WellSpelled (c :: (middle ++ [d])) ↔
    isAlphanumeric c = true ∧ (∀ e ∈ middle, IsNameChar e) ∧ isAlphanumeric d = true := by
  have whole : (∀ e ∈ c :: (middle ++ [d]), IsNameChar e) ↔
      IsNameChar c ∧ (∀ e ∈ middle, IsNameChar e) ∧ IsNameChar d := by
    rw [List.forall_mem_cons, List.forall_mem_append, List.forall_mem_singleton]
  have ending : (c :: middle ++ [d]).getLast? = some d := List.getLast?_concat
  rw [List.cons_append] at ending
  rw [isAlphanumeric_iff, isAlphanumeric_iff]
  constructor
  · rintro ⟨letters, first, last⟩
    obtain ⟨hc, hmiddle, hd⟩ := whole.1 letters
    rw [ending] at last
    exact ⟨⟨hc, by simpa using first⟩, hmiddle, hd, by simpa using last⟩
  · rintro ⟨⟨hc, first⟩, hmiddle, hd, last⟩
    refine ⟨whole.2 ⟨hc, hmiddle, hd⟩, by simpa using first, ?_⟩
    rw [ending]
    simpa using last

/-- The groups of the pattern match one character, or one at each end of any others. -/
theorem mem_labelPattern : text ∈ labelPattern.language ↔
    (∃ c, text = [c] ∧ isAlphanumeric c = true) ∨
      ∃ c middle d, text = c :: (middle ++ [d]) ∧
        isAlphanumeric c = true ∧ (∀ e ∈ middle, IsNameChar e) ∧ isAlphanumeric d = true := by
  rw [labelPattern, Pattern.mem_both]
  constructor
  · rintro ⟨start, ⟨c, hc, rfl⟩, rest, hrest, rfl⟩
    rcases Pattern.mem_optional.1 hrest with hrest | rfl
    · obtain ⟨middle, hmiddle, ending, ⟨d, hd, rfl⟩, rfl⟩ := Pattern.mem_both.1 hrest
      simp only [Pattern.mem_many_one, hyphen_or_isAlphanumeric_iff] at hmiddle
      exact .inr ⟨c, middle, d, rfl, hc, hmiddle, hd⟩
    · exact .inl ⟨c, rfl, hc⟩
  · rintro (⟨c, rfl, hc⟩ | ⟨c, middle, d, rfl, hc, hmiddle, hd⟩)
    · exact ⟨[c], ⟨c, hc, rfl⟩, [], Pattern.mem_optional.2 (.inr rfl), rfl⟩
    · refine ⟨[c], ⟨c, hc, rfl⟩, middle ++ [d], Pattern.mem_optional.2 (.inl ?_), rfl⟩
      refine Pattern.mem_both.2 ⟨middle, ?_, [d], Pattern.mem_one.2 ⟨d, hd, rfl⟩, rfl⟩
      simpa only [Pattern.mem_many_one, hyphen_or_isAlphanumeric_iff] using hmiddle

theorem mem_labelPattern_iff :
    text ∈ labelPattern.language ↔ text ≠ [] ∧ WellSpelled text := by
  rw [mem_labelPattern]
  constructor
  · rintro (⟨c, rfl, h⟩ | ⟨c, middle, d, rfl, h⟩)
    · exact ⟨List.cons_ne_nil _ _, wellSpelled_singleton.2 h⟩
    · exact ⟨List.cons_ne_nil _ _, wellSpelled_between.2 h⟩
  · rintro ⟨filled, spelled⟩
    obtain ⟨c, rest, rfl⟩ := List.exists_cons_of_ne_nil filled
    rcases List.eq_nil_or_concat' rest with rfl | ⟨middle, d, rfl⟩
    · exact .inl ⟨c, rfl, wellSpelled_singleton.1 spelled⟩
    · exact .inr ⟨c, middle, d, rfl, wellSpelled_between.1 spelled⟩

/-! ## Domains -/

theorem mem_domainPattern_iff : text ∈ domainPattern.language ↔
    ∀ piece ∈ Text.pieces (· == '.') text, piece ≠ [] ∧ WellSpelled piece := by
  -- A label holds no dot, so the dots between labels are all that there are to cut at.
  have undotted {part : List Char} (h : part ∈ labelPattern.language) :
      ∀ c ∈ part, (c == '.') = false := by
    intro c hc
    have letter := (mem_labelPattern_iff.1 h).2.letters c hc
    rw [beq_eq_false_iff_ne]
    rintro rfl
    exact not_isNameChar_dot letter
  simp only [← mem_labelPattern_iff]
  rw [domainPattern, Pattern.mem_separated]
  constructor
  · rintro ⟨parts, some, each, rfl⟩
    have cut : Text.pieces (· == '.') (['.'].intercalate parts) = parts :=
      Text.pieces_intercalate rfl some fun part h => undotted (each part h)
    rwa [cut]
  · intro each
    exact ⟨Text.pieces (· == '.') text, Text.pieces_ne_nil _ text, each,
      Text.intercalate_pieces '.' text⟩

/-! ## Names -/

section Names

variable {name : String}

theorem isLabel_iff : isLabel name = true ↔
    1 ≤ name.utf8ByteSize ∧ name.utf8ByteSize ≤ 63 ∧ WellSpelled name.toList := by
  rw [isLabel, Bool.and_eq_true, decide_eq_true_eq, Text.byteLength_toList, Pattern.accepts_iff,
    mem_labelPattern_iff, Text.one_le_utf8ByteSize_iff]
  exact and_left_comm

theorem isDomain_iff : isDomain name = true ↔
    name.utf8ByteSize ≤ 253 ∧
      ∀ piece ∈ Text.pieces (· == '.') name.toList, piece ≠ [] ∧ WellSpelled piece := by
  rw [isDomain, Bool.and_eq_true, decide_eq_true_eq, Text.byteLength_toList, Pattern.accepts_iff,
    mem_domainPattern_iff]

end Names

/-- **Names.** A label is a text of one to 63 bytes that is spelled well: lowercase letters, digits
and hyphens, with no hyphen at either end. A domain is a text of at most 253 bytes of which every
piece between dots, the first and the last one included, is spelled well and not empty. -/
theorem names_spelled (name : String) :
    (isLabel name = true ↔
      1 ≤ name.utf8ByteSize ∧ name.utf8ByteSize ≤ 63 ∧ WellSpelled name.toList) ∧
    (isDomain name = true ↔
      name.utf8ByteSize ≤ 253 ∧
        ∀ piece ∈ Text.pieces (· == '.') name.toList, piece ≠ [] ∧ WellSpelled piece) :=
  ⟨isLabel_iff, isDomain_iff⟩

example : isDomain "a.b--2" = true ∧ isDomain "a..b" = false ∧ isDomain "a.-b" = false ∧
    isDomain "a.b\n" = false := by decide

end FuseVolumes.Secret
