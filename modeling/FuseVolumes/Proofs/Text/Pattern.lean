import Mathlib.Computability.Language
import FuseVolumes.Proofs.Text.Words
import FuseVolumes.Text.Pattern

/-!
# The language of a pattern

A pattern stands for a set of texts (`Pattern.language`), and these are the texts that it accepts
(`Pattern.accepts_iff`): what is to follow after a character is what the pattern stands for behind
that character (`Pattern.mem_after`). A pattern that is repeated with a separator stands for the
texts that are joined of what the pattern stands for (`Pattern.mem_separated`).
-/

namespace FuseVolumes.Text.Pattern

open Computability

/-- The texts that a pattern stands for. -/
def language : Pattern → Language Char
  | never => 0
  | nothing => 1
  | one accepts => {text | ∃ c, accepts c = true ∧ text = [c]}
  | both p q => p.language * q.language
  | either p q => p.language + q.language
  | many p => p.language∗

variable {p q : Pattern} {text : List Char} {c : Char}

@[simp] theorem mem_nothing : text ∈ nothing.language ↔ text = [] :=
  Language.mem_one text

@[simp] theorem mem_one {accepts : Char → Bool} :
    text ∈ (one accepts).language ↔ ∃ c, accepts c = true ∧ text = [c] :=
  Iff.rfl

@[simp] theorem mem_both :
    text ∈ (both p q).language ↔ ∃ a ∈ p.language, ∃ b ∈ q.language, a ++ b = text :=
  Language.mem_mul

@[simp] theorem mem_either :
    text ∈ (either p q).language ↔ text ∈ p.language ∨ text ∈ q.language :=
  Language.mem_add ..

theorem mem_optional : text ∈ p.optional.language ↔ text ∈ p.language ∨ text = [] := by
  rw [optional, mem_either, mem_nothing]

theorem nullable_iff : p.nullable = true ↔ [] ∈ p.language := by
  induction p with
  | never => simp [nullable, language]
  | nothing => simp [nullable, language]
  | one accepts => simp [nullable]
  | both p q hp hq => simp [nullable, hp, hq]
  | either p q hp hq => simp [nullable, hp, hq]
  | many p _ => simp [nullable, language, Language.nil_mem_kstar]

@[simp] theorem language_andThen : (p.andThen q).language = p.language * q.language := by
  fun_cases andThen p q <;> simp [language]

@[simp] theorem language_orElse : (p.orElse q).language = p.language + q.language := by
  fun_cases orElse p q <;> simp [language]

/-- The first character of two texts belongs to the first one, or that one is empty. -/
theorem cons_mem_mul {l m : Language Char} : c :: text ∈ l * m ↔
    (∃ a b, c :: a ∈ l ∧ b ∈ m ∧ a ++ b = text) ∨ ([] ∈ l ∧ c :: text ∈ m) := by
  rw [Language.mem_mul]
  constructor
  · rintro ⟨a, ha, b, hb, joined⟩
    cases a with
    | nil => exact .inr ⟨ha, by rwa [← joined]⟩
    | cons d a =>
      cases joined
      exact .inl ⟨a, b, ha, hb, rfl⟩
  · rintro (⟨a, b, ha, hb, rfl⟩ | ⟨ha, hb⟩)
    · exact ⟨c :: a, ha, b, hb, rfl⟩
    · exact ⟨[], ha, c :: text, hb, rfl⟩

/-- The first character of any number of texts belongs to the first of them that is not empty. -/
theorem cons_mem_kstar {l : Language Char} :
    c :: text ∈ l∗ ↔ ∃ a b, c :: a ∈ l ∧ b ∈ l∗ ∧ a ++ b = text := by
  constructor
  · intro h
    rw [Language.kstar_def_nonempty] at h
    obtain ⟨parts, joined, some⟩ := h
    cases parts with
    | nil => cases joined
    | cons part parts =>
      obtain ⟨⟨first, filled⟩, others⟩ := List.forall_mem_cons.1 some
      cases part with
      | nil => exact absurd rfl filled
      | cons d a =>
        cases joined
        exact ⟨a, parts.flatten, first, Language.join_mem_kstar fun y hy => (others y hy).1, rfl⟩
  · rintro ⟨a, b, ha, hb, rfl⟩
    rw [← Language.one_add_self_mul_kstar_eq_kstar]
    exact .inr (Language.mem_mul.2 ⟨c :: a, ha, b, hb, rfl⟩)

/-- What is to follow after a character. -/
theorem mem_after : text ∈ (p.after c).language ↔ c :: text ∈ p.language := by
  induction p generalizing text with
  | never => simp [after, language]
  | nothing => simp [after, language]
  | one accepts =>
    rw [after, mem_one]
    by_cases accepted : accepts c = true
    · simp [accepted, language]
    · simp [accepted, language]
  | both p q hp hq =>
    have first : text ∈ (p.after c).language * q.language ↔
        ∃ a b, c :: a ∈ p.language ∧ b ∈ q.language ∧ a ++ b = text := by
      simp [Language.mem_mul, hp]
    rw [after, language, cons_mem_mul]
    by_cases empty : p.nullable = true
    · rw [if_pos empty, language_orElse, language_andThen, Language.mem_add, first, hq]
      simp [nullable_iff.1 empty]
    · rw [if_neg empty, language_andThen, first]
      simp [nullable_iff.not.1 empty]
  | either p q hp hq => rw [after, language_orElse, Language.mem_add, hp, hq, mem_either]
  | many p hp =>
    rw [after, language_andThen, language, cons_mem_kstar, Language.mem_mul]
    simp [hp]

/-- **Matching.** A pattern accepts the texts that it stands for. -/
theorem accepts_iff : p.accepts text = true ↔ text ∈ p.language := by
  induction text generalizing p with
  | nil => exact nullable_iff
  | cons c text ih => rw [accepts, ih, mem_after]

/-! ## Characters -/

/-- A pattern asks for no other characters than these. -/
def Over (S : Char → Prop) : Pattern → Prop
  | never | nothing => True
  | one accepts => ∀ c, accepts c = true → S c
  | both p q | either p q => p.Over S ∧ q.Over S
  | many p => p.Over S

theorem forall_of_mem_language {S : Char → Prop} (bound : p.Over S) (h : text ∈ p.language) :
    ∀ c ∈ text, S c := by
  induction p generalizing text with
  | never => exact absurd h (Language.notMem_zero text)
  | nothing =>
    obtain rfl := (Language.mem_one text).1 h
    simp
  | one accepts =>
    obtain ⟨c, accepted, rfl⟩ := mem_one.1 h
    simpa using bound c accepted
  | both p q hp hq =>
    obtain ⟨a, ha, b, hb, rfl⟩ := mem_both.1 h
    exact List.forall_mem_append.2 ⟨hp bound.1 ha, hq bound.2 hb⟩
  | either p q hp hq =>
    rcases mem_either.1 h with h | h
    · exact hp bound.1 h
    · exact hq bound.2 h
  | many p hp =>
    obtain ⟨parts, rfl, some⟩ := Language.mem_kstar.1 h
    intro c hc
    obtain ⟨part, hpart, hc⟩ := List.mem_flatten.1 hc
    exact hp bound (some part hpart) c hc

/-! ## Repetitions -/

theorem mem_many_one {accepts : Char → Bool} :
    text ∈ (many (one accepts)).language ↔ ∀ c ∈ text, accepts c = true := by
  constructor
  · intro h
    have bound : (many (one accepts)).Over (accepts · = true) := fun _ accepted => accepted
    exact forall_of_mem_language bound h
  · intro h
    induction text with
    | nil => exact Language.nil_mem_kstar _
    | cons c text ih =>
      obtain ⟨first, others⟩ := List.forall_mem_cons.1 h
      exact cons_mem_kstar.2 ⟨[], text, mem_one.2 ⟨c, first, rfl⟩, ih others, rfl⟩

/-- Any number of times a separator and the pattern behind it. -/
theorem mem_many_behind {s : Char} : text ∈ (many (both (one (· == s)) p)).language ↔
    ∃ parts : List (List Char), (∀ part ∈ parts, part ∈ p.language) ∧
      (parts.map ([s] ++ ·)).flatten = text := by
  have behind {tail : List Char} : tail ∈ (both (one (· == s)) p).language ↔
      ∃ part ∈ p.language, [s] ++ part = tail := by simp
  constructor
  · intro h
    obtain ⟨tails, rfl, htails⟩ := Language.mem_kstar.1 h
    clear h
    induction tails with
    | nil => exact ⟨[], by simp⟩
    | cons tail tails ih =>
      obtain ⟨first, others⟩ := List.forall_mem_cons.1 htails
      obtain ⟨part, hpart, rfl⟩ := behind.1 first
      obtain ⟨parts, hparts, joined⟩ := ih others
      exact ⟨part :: parts, List.forall_mem_cons.2 ⟨hpart, hparts⟩, by simp [← joined]⟩
  · rintro ⟨parts, hparts, rfl⟩
    apply Language.join_mem_kstar
    intro tail h
    obtain ⟨part, hpart, rfl⟩ := List.mem_map.1 h
    exact behind.2 ⟨part, hparts part hpart, rfl⟩

/-- A pattern once or more often, with a separator between every two times. -/
theorem mem_separated {s : Char} :
    text ∈ (both p (many (both (one (· == s)) p))).language ↔
      ∃ parts ≠ [], (∀ part ∈ parts, part ∈ p.language) ∧ [s].intercalate parts = text := by
  rw [mem_both]
  constructor
  · rintro ⟨first, hfirst, rest, hrest, rfl⟩
    obtain ⟨others, hothers, rfl⟩ := mem_many_behind.1 hrest
    have each := List.forall_mem_cons.2 ⟨hfirst, hothers⟩
    exact ⟨first :: others, List.cons_ne_nil _ _, each, intercalate_cons [s] first others⟩
  · rintro ⟨parts, some, each, rfl⟩
    obtain ⟨first, others, rfl⟩ := List.exists_cons_of_ne_nil some
    obtain ⟨hfirst, hothers⟩ := List.forall_mem_cons.1 each
    have rest := (mem_many_behind (s := s)).2 ⟨others, hothers, rfl⟩
    exact ⟨first, hfirst, _, rest, (intercalate_cons [s] first others).symm⟩

end FuseVolumes.Text.Pattern
