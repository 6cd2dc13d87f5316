import FuseVolumes.Proofs.Handle.Grammar

/-!
# Where reading a handle stops

A text that is no handle is read as far as it goes like one (`Stops`): after some whole fields
(`Fields`) there is no length, no separator or no field, or there is more text after the last one.
The error tells which, and how many bytes were read before (`decode_stops`). What was read can be
completed to a handle (`Stops.leads`), so this is where the text first deviates from all handles
(`decode_error_first_deviation`).
-/

namespace FuseVolumes.Handle

open Text

/-! ## What has been read -/

/-- So many fields, each behind its length and with a separator after it. -/
def Fields : Nat → List Char → Prop
  | 0, text => text = []
  | k + 1, text => ∃ front word field, Fields k front ∧ Word word (byteLength field) ∧
      text = front ++ (word ++ '-' :: (field ++ ['-']))

/-- A text that can be completed to a handle. -/
def Leads (text : List Char) : Prop := ∃ tail h, decode (.ofList (text ++ tail)) = .ok h

variable {k n : Nat} {front rest text word field : List Char}

theorem Fields.more (before : Fields k front) (length : Word word (byteLength field)) :
    Fields (k + 1) (front ++ (word ++ '-' :: (field ++ ['-']))) :=
  ⟨front, word, field, before, length, rfl⟩

/-- Three fields are a handle. -/
theorem decode_of_fields (h : Fields 3 (text ++ ['-'])) : ∃ h, decode (.ofList text) = .ok h := by
  obtain ⟨front, r, v, ⟨front', q, o, ⟨_, p, c, rfl, hp, rfl⟩, hq, rfl⟩, hr, same⟩ := h
  have split : text = p ++ '-' :: (c ++ '-' :: (q ++ '-' :: (o ++ '-' :: (r ++ '-' :: v)))) := by
    refine List.append_cancel_right (same.trans (?_ : _ = _ ++ ['-']))
    simp only [List.append_assoc, List.cons_append, List.nil_append]
  refine ⟨⟨.ofList c, .ofList o, .ofList v⟩, decode_eq_ok_iff.2 ⟨.ofList p, .ofList q, .ofList r,
    ?_, ?_, ?_, ?_⟩⟩
  · rw [← String.toList_inj, split]
    simp only [String.toList_append, String.toList_ofList, List.append_assoc]
    rfl
  all_goals simpa only [String.toList_ofList, byteLength_ofList]

theorem Leads.of_append (h : Leads (front ++ rest)) : Leads front := by
  obtain ⟨tail, read, h⟩ := h
  rw [List.append_assoc] at h
  exact ⟨rest ++ tail, read, h⟩

/-- Up to three fields can be completed by empty ones. -/
theorem leads_of_fields (before : Fields (k + 1) (text ++ ['-'])) (few : k < 3) : Leads text := by
  obtain ⟨missing, count⟩ : ∃ missing, k + missing = 2 := ⟨2 - k, by omega⟩
  induction missing generalizing k text with
  | zero =>
    obtain rfl : k = 2 := count
    obtain ⟨read, h⟩ := decode_of_fields before
    refine ⟨[], read, ?_⟩
    rwa [List.append_nil]
  | succ missing ih =>
    have empty : Word "0000".toList (byteLength []) := by decide
    have longer : Fields (k + 2) ((text ++ "-0000-".toList) ++ ['-']) := by
      simpa using before.more empty
    exact (ih longer (by omega) (by omega)).of_append

/-- A field that is whole can be completed, with or without the separator after it. -/
theorem leads_of_field (before : Fields k front) (few : k < 3)
    (length : Word word (byteLength field)) : Leads (front ++ (word ++ '-' :: field)) := by
  refine leads_of_fields ?_ few
  simpa using before.more length

/-! ## Where reading stops -/

/-- Reading stops between two parts of a text, with an error. -/
inductive Stops : List Char → List Char → DecodeError → Prop
  | cutLength {k : Nat} {front rest : List Char} (before : Fields k front) (few : k < 3)
      (short : takeBytes 4 rest = none) : Stops front rest (.truncated (byteLength front))
  | badLength {k : Nat} {front digits rest : List Char} (before : Fields k front) (few : k < 3)
      (whole : byteLength digits = 4) (bad : ∀ n, ¬ Word digits n) :
      Stops front (digits ++ rest) (.invalidLength (byteLength front))
  | afterLength {k n : Nat} {front word rest : List Char} (before : Fields k front) (few : k < 3)
      (length : Word word n) (missing : ∀ tail, rest ≠ '-' :: tail) :
      Stops (front ++ word) rest (.missingSeparator (byteLength (front ++ word)))
  | cutField {k n : Nat} {front word rest : List Char} (before : Fields k front) (few : k < 3)
      (length : Word word n) (short : takeBytes n rest = none) :
      Stops (front ++ (word ++ ['-'])) rest (.truncated (byteLength (front ++ (word ++ ['-']))))
  | afterField {k : Nat} {front rest : List Char} (before : Fields (k + 1) (front ++ ['-']))
      (few : k < 2) (missing : ∀ tail, rest ≠ '-' :: tail) :
      Stops front rest (.missingSeparator (byteLength front))
  | atEnd {front rest : List Char} (before : Fields 3 (front ++ ['-'])) (left : rest ≠ []) :
      Stops front rest (.trailingData (byteLength front))

namespace Stops

variable {e : DecodeError}

theorem offset (h : Stops front rest e) : e.offset = byteLength front := by
  cases h <;> rfl

/-- What was read can be completed to a handle. -/
theorem leads (h : Stops front rest e) : Leads front := by
  have begun {k n : Nat} {front word : List Char} (before : Fields k front) (few : k < 3)
      (length : Word word n) : Leads (front ++ (word ++ ['-'])) := by
    obtain ⟨field, rfl⟩ : ∃ field, byteLength field = n :=
      ⟨List.replicate n 'x', byteLength_replicate n⟩
    have whole := leads_of_field before few length
    rw [← List.singleton_append, ← List.append_assoc word, ← List.append_assoc front] at whole
    exact whole.of_append
  cases h with
  | cutLength before few | badLength before few =>
    -- Any length could stand here.
    have zero : Word "0000".toList 0 := by decide
    exact (begun before few zero).of_append
  | afterLength before few length =>
    have whole := begun before few length
    rw [← List.append_assoc] at whole
    exact whole.of_append
  | cutField before few length => exact begun before few length
  | afterField before few => exact leads_of_fields before (by omega)
  | atEnd before => exact leads_of_fields before (by omega)

end Stops

/-! ## Cursors -/

/-- Reading a text ends in an error of this kind. -/
def Stopped (text : List Char) (e : DecodeError) : Prop :=
  ∃ front rest, text = front ++ rest ∧ Stops front rest e

/-- A cursor is behind so many fields and their separators. -/
def Cursor.Before (text : List Char) (k : Nat) (c : Cursor) : Prop :=
  ∃ front, Fields k front ∧ text = front ++ c.rest ∧ c.offset = byteLength front

/-- A cursor is behind a field, whose separator is yet to come. -/
def Cursor.After (text : List Char) (k : Nat) (c : Cursor) : Prop :=
  ∃ front, Fields k (front ++ ['-']) ∧ text = front ++ c.rest ∧ c.offset = byteLength front

namespace Cursor

variable {c c' : Cursor} {e : DecodeError}

theorem take_eq_error_iff : c.take n = .error e ↔
    takeBytes n c.rest = none ∧ e = .truncated c.offset := by
  rw [take]
  cases takeBytes n c.rest with
  | none => simp [eq_comm]
  | some pair => simp

theorem separator_eq_error_iff : c.separator = .error e ↔
    (∀ tail, c.rest ≠ '-' :: tail) ∧ e = .missingSeparator c.offset := by
  rw [separator]
  split
  next tail there => simp [there]
  next other =>
    have missing : ∀ tail, c.rest ≠ '-' :: tail := other
    simp [missing, eq_comm]

theorem lengthDigits_eq_error (h : c.lengthDigits = .error e) :
    takeBytes 4 c.rest = none ∧ e = .truncated c.offset ∨
    ∃ digits tail, c.rest = digits ++ tail ∧ byteLength digits = 4 ∧ (∀ n, ¬ Word digits n) ∧
      e = .invalidLength c.offset := by
  rw [lengthDigits, bind_eq_error_iff] at h
  rcases h with short | ⟨⟨digits, next⟩, taken, h⟩
  · exact .inl (take_eq_error_iff.1 short)
  · obtain ⟨whole, split, -⟩ := take_eq_ok_iff.1 taken
    dsimp only at h
    split at h
    next => cases h
    next bad =>
      cases h
      refine .inr ⟨digits, next.rest, split, whole, fun n length => ?_, rfl⟩
      rw [hexNumber?_of_word length] at bad
      cases bad

theorem Before.start (text : List Char) : Before text 0 ⟨0, text⟩ := ⟨[], rfl, rfl, rfl⟩

/-- Behind a field, the cursor is before its separator. -/
theorem Before.field_ok (here : Before text k c) (h : c.field = .ok (field, c')) :
    After text (k + 1) c' := by
  obtain ⟨front, before, rfl, offset⟩ := here
  obtain ⟨word, length, split, offset'⟩ := field_eq_ok_iff.1 h
  refine ⟨front ++ (word ++ '-' :: field), ?_, ?_, ?_⟩
  · simpa using before.more length
  · simp [split]
  · have digits := length.byteLength
    have one : '-'.utf8Size = 1 := rfl
    simp only [byteLength_append, byteLength]
    omega

/-- A field cannot be read for want of its length, the separator behind that, or the field. -/
theorem Before.field_error (here : Before text k c) (few : k < 3) (h : c.field = .error e) :
    Stopped text e := by
  obtain ⟨front, before, rfl, offset⟩ := here
  rw [field, bind_eq_error_iff] at h
  rcases h with h | ⟨⟨n, behind⟩, read, h⟩
  · rcases lengthDigits_eq_error h with ⟨short, rfl⟩ | ⟨digits, tail, split, whole, bad, rfl⟩
    · rw [offset]
      exact ⟨front, c.rest, rfl, .cutLength before few short⟩
    · rw [offset, split]
      exact ⟨front, _, rfl, .badLength before few whole bad⟩
  · obtain ⟨word, length, split, offset'⟩ := lengthDigits_eq_ok_iff.1 read
    have place : behind.offset = byteLength (front ++ word) := by
      rw [byteLength_append, length.byteLength, offset', offset]
    rcases bind_eq_error_iff.1 h with h | ⟨last, separated, h⟩
    · obtain ⟨missing, rfl⟩ := separator_eq_error_iff.1 h
      refine ⟨front ++ word, behind.rest, by simp [split], ?_⟩
      rw [place]
      exact .afterLength before few length missing
    · obtain ⟨split', offset''⟩ := separator_eq_ok_iff.1 separated
      obtain ⟨short, rfl⟩ := take_eq_error_iff.1 h
      refine ⟨front ++ (word ++ ['-']), last.rest, by simp [split, split'], ?_⟩
      have place' : last.offset = byteLength (front ++ (word ++ ['-'])) := by
        rw [← List.append_assoc, byteLength_append, ← place, offset'']
        rfl
      rw [place']
      exact .cutField before few length short

theorem After.separator_ok (here : After text k c) (h : c.separator = .ok c') :
    Before text k c' := by
  obtain ⟨front, before, rfl, offset⟩ := here
  obtain ⟨split, offset'⟩ := separator_eq_ok_iff.1 h
  refine ⟨front ++ ['-'], before, by simp [split], ?_⟩
  rw [byteLength_append, offset', offset]
  rfl

theorem After.separator_error (here : After text (k + 1) c) (few : k < 2)
    (h : c.separator = .error e) : Stopped text e := by
  obtain ⟨front, before, rfl, offset⟩ := here
  obtain ⟨missing, rfl⟩ := separator_eq_error_iff.1 h
  rw [offset]
  exact ⟨front, c.rest, rfl, .afterField before few missing⟩

theorem After.ended (here : After text 3 c) (left : c.rest ≠ []) :
    Stopped text (.trailingData c.offset) := by
  obtain ⟨front, before, rfl, offset⟩ := here
  rw [offset]
  exact ⟨front, c.rest, rfl, .atEnd before left⟩

end Cursor

/-- A text that is no handle is read up to where it stops being one. -/
theorem decode_stops {e : DecodeError} (h : decode (.ofList text) = .error e) :
    Stopped text e := by
  have start := Cursor.Before.start text
  rw [decode, String.toList_ofList] at h
  rcases bind_eq_error_iff.1 h with h | ⟨⟨cluster, c₁⟩, read₁, h⟩
  · exact start.field_error (by decide) h
  have first := start.field_ok read₁
  rcases bind_eq_error_iff.1 h with h | ⟨c₂, separated₁, h⟩
  · exact first.separator_error (by decide) h
  have second := first.separator_ok separated₁
  rcases bind_eq_error_iff.1 h with h | ⟨⟨owner, c₃⟩, read₂, h⟩
  · exact second.field_error (by decide) h
  have third := second.field_ok read₂
  rcases bind_eq_error_iff.1 h with h | ⟨c₄, separated₂, h⟩
  · exact third.separator_error (by decide) h
  have fourth := third.separator_ok separated₂
  rcases bind_eq_error_iff.1 h with h | ⟨⟨volume, c₅⟩, read₃, h⟩
  · exact fourth.field_error (by decide) h
  have last := fourth.field_ok read₃
  dsimp only at h
  split at h
  next => cases h
  next left =>
    cases h
    exact last.ended (by simpa using left)

/-! ## More text after a handle -/

namespace Cursor

variable {c c' : Cursor}

/-- The same cursor with more text to come. -/
def extend (c : Cursor) (more : List Char) : Cursor := ⟨c.offset, c.rest ++ more⟩

theorem field_extend (more : List Char) (h : c.field = .ok (field, c')) :
    (c.extend more).field = .ok (field, c'.extend more) := by
  obtain ⟨word, length, split, offset⟩ := field_eq_ok_iff.1 h
  refine field_eq_ok_iff.2 ⟨word, length, ?_, offset⟩
  simp [extend, split]

theorem separator_extend (more : List Char) (h : c.separator = .ok c') :
    (c.extend more).separator = .ok (c'.extend more) := by
  obtain ⟨split, offset⟩ := separator_eq_ok_iff.1 h
  refine separator_eq_ok_iff.2 ⟨?_, offset⟩
  simp [extend, split]

end Cursor

/-- A handle with more text behind it is read as far as the handle goes. -/
theorem decode_append {read : Handle} (h : decode (.ofList front) = .ok read) (left : rest ≠ []) :
    decode (.ofList (front ++ rest)) = .error (.trailingData (byteLength front)) := by
  simp only [decode, String.toList_ofList, bind_eq_ok_iff, Prod.exists] at h
  obtain ⟨cluster, c₁, read₁, c₂, separated₁, owner, c₃, read₂, c₄, separated₂, volume, c₅, read₃,
    h⟩ := h
  split at h
  next ended =>
    have last : Cursor.After front 3 c₅ := (((((Cursor.Before.start front).field_ok
      read₁).separator_ok separated₁).field_ok read₂).separator_ok separated₂).field_ok read₃
    obtain ⟨front', -, split, offset⟩ := last
    rw [List.isEmpty_iff] at ended
    rw [ended, List.append_nil] at split
    have start : (⟨0, front ++ rest⟩ : Cursor) = Cursor.extend ⟨0, front⟩ rest := rfl
    have more : (c₅.extend rest).rest.isEmpty = false := by simpa [Cursor.extend, ended] using left
    simp only [decode, String.toList_ofList, start, Cursor.field_extend rest read₁,
      Cursor.separator_extend rest separated₁, Cursor.field_extend rest read₂,
      Cursor.separator_extend rest separated₂, Cursor.field_extend rest read₃, ok_bind, more,
      Bool.false_eq_true, if_false]
    rw [split, ← offset]
    rfl
  next => cases h

/-! ## The first deviation -/

/-- So many bytes are to be read next: those of a length, or those of a field behind its length. -/
def Awaits (front : List Char) (n : Nat) : Prop :=
  ∃ k before, k < 3 ∧ Fields k before ∧
    (front = before ∧ n = 4 ∨ ∃ word, Word word n ∧ front = before ++ (word ++ ['-']))

/-- What an error tells of a text that is read up to `rest`. -/
def Deviates (front rest : String) : DecodeError → Prop
  | .truncated _ => ∃ n, Awaits front.toList n ∧
      ∀ taken left, rest = taken ++ left → taken.utf8ByteSize ≠ n
  | .invalidLength _ => ∃ digits left, rest = digits ++ left ∧ digits.utf8ByteSize = 4 ∧
      ∀ n, ¬ Word digits.toList n
  | .missingSeparator _ => ∀ left, rest ≠ "-" ++ left
  | .trailingData _ => rest ≠ "" ∧ ∃ read, decode front = .ok read

theorem uncut_of_takeBytes (short : takeBytes n rest = none) (taken left : String)
    (split : String.ofList rest = taken ++ left) : taken.utf8ByteSize ≠ n := by
  have cut : rest = taken.toList ++ left.toList := by
    rw [← String.toList_append, ← split, String.toList_ofList]
  rw [← byteLength_toList]
  exact takeBytes_eq_none_iff.1 short _ _ cut

theorem no_separator (missing : ∀ tail, rest ≠ '-' :: tail) (left : String) :
    String.ofList rest ≠ "-" ++ left := by
  intro split
  refine missing left.toList ?_
  rw [← String.toList_ofList (l := rest), split, String.toList_append]
  rfl

theorem Stops.deviates {e : DecodeError} (h : Stops front rest e) :
    Deviates (.ofList front) (.ofList rest) e := by
  cases h with
  | cutLength before few short =>
    refine ⟨4, ⟨_, _, few, before, .inl ⟨String.toList_ofList, rfl⟩⟩, uncut_of_takeBytes short⟩
  | @badLength _ _ digits left before few whole bad =>
    refine ⟨.ofList digits, .ofList left, String.ofList_append, ?_, ?_⟩
    · rw [byteLength_ofList, whole]
    · rwa [String.toList_ofList]
  | afterLength before few length missing => exact no_separator missing
  | cutField before few length short =>
    exact ⟨_, ⟨_, _, few, before, .inr ⟨_, length, String.toList_ofList⟩⟩,
      uncut_of_takeBytes short⟩
  | afterField before few missing => exact no_separator missing
  | atEnd before left =>
    refine ⟨?_, decode_of_fields before⟩
    rwa [Ne, ← String.toList_inj, String.toList_ofList]

/-- A handle with more text behind it is rejected for what begins there. -/
theorem trailing_of_front {id front rest : String} {read : Handle} (split : id = front ++ rest)
    (left : rest ≠ "") (h : decode front = .ok read) :
    decode id = .error (.trailingData front.utf8ByteSize) := by
  have more : rest.toList ≠ [] := fun none => left (String.toList_eq_nil_iff.1 none)
  rw [← String.ofList_toList (s := front)] at h
  have trailing := decode_append h more
  rwa [← String.toList_append, ← split, String.ofList_toList, byteLength_toList] at trailing

/-- **First deviation.** The offset of an error is a place in the text, between two characters. What
stands before it can be completed to a handle, and what stands there is as the error tells. Data is
behind a handle if and only if a part of the text before its end is one, and then it begins there. -/
theorem decode_error_first_deviation (id : String) (e : DecodeError) (h : decode id = .error e) :
    e.offset ≤ id.utf8ByteSize ∧ String.Pos.Raw.IsValid id ⟨e.offset⟩ ∧
    (∃ front rest : String, id = front ++ rest ∧ front.utf8ByteSize = e.offset ∧
      (∃ tail read, decode (front ++ tail) = .ok read) ∧ Deviates front rest e) ∧
    ((∃ n, e = .trailingData n) ↔
      ∃ front rest read, id = front ++ rest ∧ rest ≠ "" ∧ decode front = .ok read) ∧
    ∀ front rest read, id = front ++ rest → rest ≠ "" → decode front = .ok read →
      e.offset = front.utf8ByteSize := by
  have text : decode (.ofList id.toList) = .error e := by rwa [String.ofList_toList]
  obtain ⟨front, rest, split, stops⟩ := decode_stops text
  have split : id = .ofList front ++ .ofList rest := by
    rw [← String.ofList_append, ← split, String.ofList_toList]
  have offset : (String.ofList front).utf8ByteSize = e.offset := by
    rw [byteLength_ofList, stops.offset]
  have deviates := stops.deviates
  have trails (front rest : String) (read : Handle) (split : id = front ++ rest) (left : rest ≠ "")
      (h' : decode front = .ok read) : e = .trailingData front.utf8ByteSize :=
    Except.error.inj (h.symm.trans (trailing_of_front split left h'))
  refine ⟨?_, ?_, ⟨_, _, split, offset, ?_, deviates⟩, ⟨?_, ?_⟩, ?_⟩
  · rw [split, String.utf8ByteSize_append, offset]
    omega
  · refine String.Pos.Raw.isValid_iff_exists_append.2 ⟨_, _, split, ?_⟩
    rw [← offset]
    rfl
  · obtain ⟨tail, read, whole⟩ := stops.leads
    rw [String.ofList_append] at whole
    exact ⟨_, read, whole⟩
  · rintro ⟨n, rfl⟩
    obtain ⟨left, read, whole⟩ := deviates
    exact ⟨_, _, read, split, left, whole⟩
  · rintro ⟨front, rest, read, split, left, whole⟩
    exact ⟨_, trails front rest read split left whole⟩
  · intro front rest read split left whole
    rw [trails front rest read split left whole]
    rfl

/-- A length that would split a character, digits that are none, no separator behind a field, a
field that would split a character, and data behind a handle. -/
theorem decode_error_first_deviation_of_each_kind :
    decode "000é-1" = .error (.truncated 0) ∧
    decode "0001-1-00é-admin" = .error (.invalidLength 7) ∧
    decode "0002-é0005-admin" = .error (.missingSeparator 7) ∧
    decode "0001-é-0005-admin" = .error (.truncated 5) ∧
    decode "0001-1-0005-admin-0001-vé" = .error (.trailingData 24) ∧
    String.Pos.Raw.IsValid "0001-1-0005-admin-0001-vé" ⟨24⟩ ∧
    (∃ front rest : String, "0001-é-0005-admin" = front ++ rest ∧ front.utf8ByteSize = 5 ∧
      ∃ tail read, decode (front ++ tail) = .ok read) ∧
    ∃ front rest read, "0001-1-0005-admin-0001-vé" = front ++ rest ∧ rest ≠ "" ∧
      decode front = .ok read := by
  have cut : decode "0001-é-0005-admin" = .error (.truncated 5) := rfl
  have trailing : decode "0001-1-0005-admin-0001-vé" = .error (.trailingData 24) := rfl
  obtain ⟨-, -, ⟨front, rest, split, offset, leads, -⟩, -, -⟩ :=
    decode_error_first_deviation _ _ cut
  obtain ⟨-, boundary, -, part, -⟩ := decode_error_first_deviation _ _ trailing
  exact ⟨rfl, rfl, rfl, cut, trailing, boundary,
    ⟨front, rest, split, offset, leads⟩, part.1 ⟨24, rfl⟩⟩

end FuseVolumes.Handle
