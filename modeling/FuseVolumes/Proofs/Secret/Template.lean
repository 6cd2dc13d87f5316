import FuseVolumes.Proofs.Dict
import FuseVolumes.Secret.Reference

/-!
# What a template says

A template is plain text with tokens in it. Where they are does not depend on how they are looked
for: there is one way only to write it as plain parts, which open no token, with a token after each,
which closes where its first brace does, and a rest in which no token is closed (`Reads`,
`reads_iff`). A template is filled by putting the values in the places of the tokens, once, or it
cannot be filled, and then exactly the tokens are told that have no value
(`fillTemplate_eq_of_reads`).
-/

namespace FuseVolumes.Secret

namespace Template

/-! ## Tokens -/

/-- What a token begins with. -/
def opening : List Char := ['$', '\x7b']

/-- A token as it is written. -/
def written (token : List Char) : List Char := opening ++ (token ++ ['\x7d'])

/-- A token begins in a text, and ends in it. -/
def HoldsToken (text : List Char) : Prop := ∃ token, written token <:+: text

section Tokens

variable {text token rest : List Char} {c : Char}

theorem untilBrace_eq_none_iff : untilBrace text = none ↔ '\x7d' ∉ text := by
  induction text with
  | nil => simp [untilBrace]
  | cons c text ih =>
    by_cases brace : c = '\x7d'
    · simp [untilBrace, brace]
    · simp [untilBrace, brace, ih, Ne.symm brace]

theorem untilBrace_append (plain : '\x7d' ∉ token) (rest : List Char) :
    untilBrace (token ++ '\x7d' :: rest) = some (token, rest) := by
  induction token with
  | nil => simp [untilBrace]
  | cons c token ih =>
    simp only [List.mem_cons, not_or] at plain
    simp [untilBrace, Ne.symm plain.1, ih plain.2]

theorem untilBrace_eq_some (h : untilBrace text = some (token, rest)) :
    text = token ++ '\x7d' :: rest ∧ '\x7d' ∉ token := by
  induction text generalizing token with
  | nil => simp [untilBrace] at h
  | cons c text ih =>
    by_cases brace : c = '\x7d'
    · simp only [untilBrace, brace, beq_self_eq_true, ↓reduceIte, Option.some.injEq,
        Prod.mk.injEq] at h
      obtain ⟨rfl, rfl⟩ := h
      simp [brace]
    · simp only [untilBrace, beq_iff_eq, brace, ↓reduceIte, Option.map_eq_some_iff] at h
      obtain ⟨⟨name, after⟩, found, h⟩ := h
      cases h
      obtain ⟨rfl, plain⟩ := ih found
      simp [plain, Ne.symm brace]

theorem tokenAt?_written (plain : '\x7d' ∉ token) (rest : List Char) :
    tokenAt? (written token ++ rest) = some (token, rest) := by
  simp [written, opening, tokenAt?, untilBrace_append plain]

theorem tokenAt?_eq_some (h : tokenAt? text = some (token, rest)) :
    text = written token ++ rest ∧ '\x7d' ∉ token := by
  unfold tokenAt? at h
  split at h
  · obtain ⟨rfl, plain⟩ := untilBrace_eq_some h
    simp [written, opening, plain]
  · cases h

/-- No token is found exactly where none begins, or it is never closed. -/
theorem tokenAt?_eq_none (h : tokenAt? text = none) (token : List Char) :
    ¬ written token <+: text := by
  rintro ⟨rest, rfl⟩
  simp [written, opening, tokenAt?, untilBrace_eq_none_iff] at h

theorem holdsToken_cons (none : tokenAt? (c :: text) = none) :
    HoldsToken (c :: text) ↔ HoldsToken text := by
  constructor
  · rintro ⟨token, h⟩
    rcases List.infix_cons_iff.1 h with here | later
    · exact absurd here (tokenAt?_eq_none none token)
    · exact ⟨token, later⟩
  · rintro ⟨token, h⟩
    exact ⟨token, List.infix_cons h⟩

end Tokens

/-! ## Readings -/

/-- Tokens with the plain text before each, and what is behind the last one. -/
structure Reading where
  pieces : List (List Char × List Char)
  rest : List Char

namespace Reading

def text (r : Reading) : List Char :=
  (r.pieces.flatMap fun (plain, token) => plain ++ written token) ++ r.rest

def tokens (r : Reading) : List String := r.pieces.map fun (_, token) => .ofList token

/-- The text with a value in the place of each token. -/
def replaced (r : Reading) (value : String → String) : List Char :=
  (r.pieces.flatMap fun (plain, token) => plain ++ (value (.ofList token)).toList) ++ r.rest

def segments (r : Reading) : List Segment :=
  (r.pieces.flatMap fun (plain, token) => plain.map .plain ++ [.token token]) ++ r.rest.map .plain

end Reading

/-- The reading of a template: plain text opens no token unless it is never closed, and a token
is closed by the first brace. -/
structure Reads (template : List Char) (r : Reading) : Prop where
  text : r.text = template
  plain : ∀ piece ∈ r.pieces, ¬ opening <:+: piece.1
  token : ∀ piece ∈ r.pieces, '\x7d' ∉ piece.2
  rest : ¬ HoldsToken r.rest

namespace Reading

/-- With a character more before everything else. -/
def cons (c : Char) (r : Reading) : Reading :=
  match r.pieces with
  | [] => ⟨[], c :: r.rest⟩
  | (plain, token) :: pieces => ⟨(c :: plain, token) :: pieces, r.rest⟩

/-- With a token more before everything else. -/
def consToken (token : List Char) (r : Reading) : Reading := ⟨([], token) :: r.pieces, r.rest⟩

/-- Characters up to the next token belong together. -/
def ofSegments : List Segment → Reading
  | [] => ⟨[], []⟩
  | .plain c :: segments => (ofSegments segments).cons c
  | .token name :: segments => (ofSegments segments).consToken name

theorem segments_cons (plain token : List Char) (pieces : List (List Char × List Char))
    (rest : List Char) : segments ⟨(plain, token) :: pieces, rest⟩ =
      plain.map .plain ++ .token token :: segments ⟨pieces, rest⟩ := by
  simp [segments]

theorem ofSegments_plain_append (plain token : List Char) (segments : List Segment) :
    ofSegments (plain.map .plain ++ .token token :: segments) =
      ⟨(plain, token) :: (ofSegments segments).pieces, (ofSegments segments).rest⟩ := by
  induction plain with
  | nil => rfl
  | cons c plain ih => rw [List.map_cons, List.cons_append, ofSegments, ih, cons]

theorem ofSegments_plain (rest : List Char) : ofSegments (rest.map .plain) = ⟨[], rest⟩ := by
  induction rest with
  | nil => rfl
  | cons c rest ih => rw [List.map_cons, ofSegments, ih, cons]

theorem ofSegments_segments (r : Reading) : ofSegments r.segments = r := by
  obtain ⟨pieces, rest⟩ := r
  induction pieces with
  | nil => simp [segments, ofSegments_plain]
  | cons piece pieces ih => rw [segments_cons, ofSegments_plain_append, ih]

end Reading

/-! ## The scan -/

section Scan

variable {text token rest plain : List Char} {c : Char} {r : Reading}

theorem scan_of_token (h : tokenAt? text = some (token, rest)) :
    scan text = .token token :: scan rest := by
  cases text with
  | nil => simp [tokenAt?] at h
  | cons c text =>
    rw [scan]
    split
    next token' rest' h' =>
      cases h.symm.trans h'
      rfl
    next h' => cases h.symm.trans h'

theorem scan_of_plain (h : tokenAt? (c :: text) = none) :
    scan (c :: text) = .plain c :: scan text := by
  rw [scan]
  split
  next token' rest' h' => cases h.symm.trans h'
  next => rfl

theorem tokenAt?_of_not_opening (h : ¬ opening <+: text) : tokenAt? text = none := by
  unfold tokenAt?
  split
  · exact absurd ⟨_, rfl⟩ h
  · rfl

/-- What opens a token begins within plain text, if it begins there: no token begins with what a
token is opened with last. -/
theorem opening_prefix_append (h : opening <+: c :: (plain ++ (written token ++ rest))) :
    opening <+: c :: plain := by
  cases plain with
  | nil => simp [opening, written] at h
  | cons d plain => simpa [opening] using h

theorem scan_plain_append (plainly : ¬ opening <:+: plain) (closed : '\x7d' ∉ token)
    (rest : List Char) : scan (plain ++ (written token ++ rest)) =
      plain.map .plain ++ .token token :: scan rest := by
  induction plain with
  | nil => exact scan_of_token (tokenAt?_written closed rest)
  | cons c plain ih =>
    rw [List.infix_cons_iff, not_or] at plainly
    have none : tokenAt? (c :: (plain ++ (written token ++ rest))) = none :=
      tokenAt?_of_not_opening fun opened => plainly.1 (opening_prefix_append opened)
    rw [List.cons_append, scan_of_plain none, ih plainly.2, List.map_cons, List.cons_append]

theorem scan_of_not_holdsToken (h : ¬ HoldsToken text) : scan text = text.map .plain := by
  induction text with
  | nil => simp [scan]
  | cons c text ih =>
    cases found : tokenAt? (c :: text) with
    | none =>
      rw [scan_of_plain found, ih fun later => h ((holdsToken_cons found).2 later), List.map_cons]
    | some pair =>
      obtain ⟨written, -⟩ := tokenAt?_eq_some found
      exact absurd ⟨pair.1, [], pair.2, written.symm⟩ h

/-- The scan finds the tokens of a reading. -/
theorem scan_of_reads (h : Reads text r) : scan text = r.segments := by
  obtain ⟨pieces, rest⟩ := r
  obtain ⟨rfl, plain, token, closed⟩ := h
  induction pieces with
  | nil => simpa [Reading.text, Reading.segments] using scan_of_not_holdsToken closed
  | cons piece pieces ih =>
    obtain ⟨first, others⟩ := List.forall_mem_cons.1 plain
    obtain ⟨first', others'⟩ := List.forall_mem_cons.1 token
    have split : Reading.text ⟨piece :: pieces, rest⟩ =
        piece.1 ++ (written piece.2 ++ Reading.text ⟨pieces, rest⟩) := by
      simp [Reading.text]
    rw [split, scan_plain_append first first', ih others others' closed, Reading.segments_cons]

theorem Reads.consToken (closed : '\x7d' ∉ token) (h : Reads text r) :
    Reads (written token ++ text) (r.consToken token) where
  text := by simp [Reading.consToken, Reading.text, ← h.text]
  plain := by simpa [Reading.consToken, opening] using h.plain
  token := by simpa [Reading.consToken, closed] using h.token
  rest := h.rest

/-- Where no token is found, none is opened before the brace that closes the next one. -/
theorem not_opening_of_tokenAt? (none : tokenAt? (plain ++ (written token ++ rest)) = none) :
    ¬ opening <+: plain := by
  rintro ⟨plain, rfl⟩
  simp [opening, written, tokenAt?, untilBrace_eq_none_iff] at none

theorem Reads.cons (none : tokenAt? (c :: text) = none) (h : Reads text r) :
    Reads (c :: text) (r.cons c) := by
  obtain ⟨pieces, rest⟩ := r
  obtain ⟨rfl, plain, token, closed⟩ := h
  cases pieces with
  | nil => exact ⟨rfl, nofun, nofun, fun later => closed ((holdsToken_cons none).1 later)⟩
  | cons piece pieces =>
    have split : c :: Reading.text ⟨piece :: pieces, rest⟩ =
        (c :: piece.1) ++ (written piece.2 ++ Reading.text ⟨pieces, rest⟩) := by
      simp [Reading.text]
    rw [split] at none
    obtain ⟨first, others⟩ := List.forall_mem_cons.1 plain
    refine ⟨rfl, List.forall_mem_cons.2 ⟨?_, others⟩, List.forall_mem_cons.2 ?_, closed⟩
    · intro opened
      rcases List.infix_cons_iff.1 opened with here | later
      · exact not_opening_of_tokenAt? none here
      · exact first later
    · exact List.forall_mem_cons.1 token

/-- What the scan finds is a reading. -/
theorem reads_scan (text : List Char) : Reads text (.ofSegments (scan text)) := by
  fun_induction scan text with
  | case1 => exact ⟨rfl, nofun, nofun, by simp [HoldsToken, Reading.ofSegments, written, opening]⟩
  | case2 c text token rest found ih =>
    obtain ⟨eq, closed⟩ := tokenAt?_eq_some found
    rw [eq]
    exact ih.consToken closed
  | case3 c text none ih => exact ih.cons none

/-- **Readings.** Every text has one reading, and it is the one that the scan finds. -/
theorem reads_iff : Reads text r ↔ r = .ofSegments (scan text) := by
  constructor
  · intro h
    rw [scan_of_reads h, Reading.ofSegments_segments]
  · rintro rfl
    exact reads_scan text

end Scan

/-! ## Values -/

section Values

variable {values : Dict} {r : Reading} {value : String → String}

theorem tokens_plain_append (plain : List Char) (segments : List Segment) :
    Template.tokens (plain.map .plain ++ segments) = Template.tokens segments := by
  induction plain with
  | nil => rfl
  | cons c plain ih => exact ih

theorem fill_plain_append (plain : List Char) (segments : List Segment) :
    fill values (plain.map .plain ++ segments) = plain ++ fill values segments := by
  induction plain with
  | nil => rfl
  | cons c plain ih => exact congrArg (c :: ·) ih

theorem tokens_segments (r : Reading) : Template.tokens r.segments = r.tokens := by
  obtain ⟨pieces, rest⟩ := r
  induction pieces with
  | nil => simp [Reading.segments, Reading.tokens, Template.tokens]
  | cons piece pieces ih =>
    rw [Reading.segments_cons, tokens_plain_append]
    exact congrArg (_ :: ·) ih

theorem fill_segments (known : ∀ token ∈ r.tokens, values.get? token = some (value token)) :
    fill values r.segments = r.replaced value := by
  obtain ⟨pieces, rest⟩ := r
  induction pieces with
  | nil => simpa [Reading.segments, Reading.replaced, fill] using fill_plain_append rest []
  | cons piece pieces ih =>
    obtain ⟨first, others⟩ := List.forall_mem_cons.1 known
    have replaced : Reading.replaced ⟨piece :: pieces, rest⟩ value =
        piece.1 ++ ((value (.ofList piece.2)).toList ++ Reading.replaced ⟨pieces, rest⟩ value) := by
      simp [Reading.replaced]
    have token : fill values (.token piece.2 :: Reading.segments ⟨pieces, rest⟩) =
        (value (.ofList piece.2)).toList ++ fill values (Reading.segments ⟨pieces, rest⟩) := by
      simp [fill, first]
    rw [Reading.segments_cons, fill_plain_append, token, ih others, replaced]

end Values

end Template

/-! ## Filled templates -/

open Template

variable {template : String} {values : Dict} {r : Reading}

/-- The tokens of a reading that have no value. -/
def missing (values : Dict) (r : Reading) : List String := r.tokens.filter (! values.contains ·)

theorem mem_missing {token : String} :
    token ∈ missing values r ↔ token ∈ r.tokens ∧ values.get? token = none := by
  simp [missing, Dict.contains]

theorem fillTemplate_of_reads (reads : Reads template.toList r) :
    fillTemplate template values =
      if missing values r = [] then .ok (.ofList (fill values r.segments))
      else .error (.invalidTokens template (orderedSet (missing values r))) := by
  rw [fillTemplate, Template.resolve, scan_of_reads reads]
  rw [tokens_segments, ← missing]
  cases missing values r <;> rfl

theorem fillTemplate_of_known (reads : Reads template.toList r) {value : String → String}
    (known : ∀ token ∈ r.tokens, values.get? token = some (value token)) :
    fillTemplate template values = .ok (.ofList (r.replaced value)) := by
  have none : missing values r = [] := by
    refine List.eq_nil_iff_forall_not_mem.2 fun token h => ?_
    obtain ⟨occurs, unknown⟩ := mem_missing.1 h
    cases (known token occurs).symm.trans unknown
  rw [fillTemplate_of_reads reads, if_pos none, fill_segments known]

theorem fillTemplate_of_unknown (reads : Reads template.toList r)
    (unknown : ∃ token ∈ r.tokens, values.get? token = none) :
    fillTemplate template values =
      .error (.invalidTokens template (orderedSet (missing values r))) := by
  obtain ⟨token, h⟩ := unknown
  have some : missing values r ≠ [] := List.ne_nil_of_mem (mem_missing.2 h)
  rw [fillTemplate_of_reads reads, if_neg some]

/-- **Expansion.** A template can be read in one way only. It is filled with the values of its
tokens, each in the place of its token and nothing else changed, if all of them have one. If not,
the tokens that have none are told, in order and each once. -/
theorem fillTemplate_expands (template : String) (values : Dict) :
    ∃ r, Reads template.toList r ∧ (∀ r', Reads template.toList r' → r' = r) ∧
      (∀ value : String → String,
        (∀ token ∈ r.tokens, values.get? token = some (value token)) →
        fillTemplate template values = .ok (.ofList (r.replaced value))) ∧
      ((∃ token ∈ r.tokens, values.get? token = none) →
        ∃ missing, fillTemplate template values = .error (.invalidTokens template missing) ∧
          missing.Pairwise (· < ·) ∧
          ∀ token, token ∈ missing ↔ token ∈ r.tokens ∧ values.get? token = none) := by
  have reads := reads_scan template.toList
  refine ⟨_, reads, fun r' reads' => reads_iff.1 reads', fun value => fillTemplate_of_known reads,
    fun unknown => ⟨_, fillTemplate_of_unknown reads unknown, pairwise_orderedSet _, ?_⟩⟩
  intro token
  rw [mem_orderedSet, mem_missing]

end FuseVolumes.Secret
