import FuseVolumes.Handle
import FuseVolumes.Proofs.Except
import FuseVolumes.Proofs.Text.Bytes

/-!
# The grammar of handles

A handle is three fields, each behind its length in bytes as four hexadecimal digits of either case
(`Layout`). Reading accepts exactly that (`decode_eq_ok_iff`), a text has at most one such reading
(`Layout.unique`), and writing what was read gives the text back with its lengths in lowercase
(`Layout.write`).
-/

namespace FuseVolumes.Handle

open Text

/-! ## Layout -/

/-- The text is laid out as the handle's fields behind the lengths `p`, `q` and `r`. -/
structure Layout (id : String) (h : Handle) (p q r : String) : Prop where
  text : id = p ++ "-" ++ h.cluster ++ "-" ++ q ++ "-" ++ h.owner ++ "-" ++ r ++ "-" ++ h.volume
  cluster : Word p.toList h.cluster.utf8ByteSize
  owner : Word q.toList h.owner.utf8ByteSize
  volume : Word r.toList h.volume.utf8ByteSize

instance (id : String) (h : Handle) (p q r : String) : Decidable (Layout id h p q r) :=
  decidable_of_iff (_ ∧ _ ∧ _ ∧ _)
    ⟨fun ⟨text, cluster, owner, volume⟩ => ⟨text, cluster, owner, volume⟩,
      fun ⟨text, cluster, owner, volume⟩ => ⟨text, cluster, owner, volume⟩⟩

variable {id p q r : String} {h : Handle}

theorem Layout.toList (layout : Layout id h p q r) :
    id.toList = p.toList ++ '-' :: (h.cluster.toList ++ '-' :: (q.toList ++ '-' ::
      (h.owner.toList ++ '-' :: (r.toList ++ '-' :: h.volume.toList)))) := by
  rw [layout.text]
  simp only [String.toList_append, List.append_assoc]
  rfl

/-- Behind a length stands one field, and what follows it. -/
theorem field_inj {p p' field field' rest rest' : List Char}
    (length : Word p (byteLength field)) (length' : Word p' (byteLength field'))
    (same : p ++ '-' :: (field ++ rest) = p' ++ '-' :: (field' ++ rest')) :
    p = p' ∧ field = field' ∧ rest = rest' := by
  obtain ⟨rfl, tail⟩ :=
    append_inj_of_byteLength same (by rw [length.byteLength, length'.byteLength])
  have bytes : byteLength field = byteLength field' := by
    have left := hexNumber?_of_word length
    rw [hexNumber?_of_word length'] at left
    exact (Option.some.inj left).symm
  obtain ⟨rfl, rfl⟩ := append_inj_of_byteLength (List.cons.inj tail).2 bytes
  exact ⟨rfl, rfl, rfl⟩

/-- A text has at most one reading. -/
theorem Layout.unique {h' : Handle} {p' q' r' : String} (layout : Layout id h p q r)
    (layout' : Layout id h' p' q' r') : h = h' ∧ p = p' ∧ q = q' ∧ r = r' := by
  obtain ⟨c, o, v⟩ := h
  obtain ⟨c', o', v'⟩ := h'
  have same := layout.toList.symm.trans layout'.toList
  obtain ⟨-, hc, ho, hv⟩ := layout
  obtain ⟨-, hc', ho', hv'⟩ := layout'
  simp only [← byteLength_toList] at hc ho hv hc' ho' hv'
  obtain ⟨hp, cluster, same⟩ := field_inj hc hc' same
  obtain ⟨hq, owner, same⟩ := field_inj ho ho' (List.cons.inj same).2
  have last : r.toList ++ '-' :: (v.toList ++ []) = r'.toList ++ '-' :: (v'.toList ++ []) := by
    simpa using same
  obtain ⟨hr, volume, -⟩ := field_inj hv hv' last
  rw [String.toList_inj] at hp cluster hq owner hr volume
  subst hp cluster hq owner hr volume
  exact ⟨rfl, rfl, rfl, rfl⟩

/-! ## Reading -/

namespace Cursor

variable {c c' : Cursor} {front : List Char} {n : Nat}

theorem eq_mk_iff {rest : List Char} : (⟨n, rest⟩ : Cursor) = c ↔ rest = c.rest ∧ c.offset = n := by
  obtain ⟨offset, rest'⟩ := c
  rw [mk.injEq]
  exact ⟨fun ⟨h, h'⟩ => ⟨h', h.symm⟩, fun ⟨h, h'⟩ => ⟨h'.symm, h⟩⟩

theorem take_eq_ok_iff : c.take n = .ok (front, c') ↔
    byteLength front = n ∧ c.rest = front ++ c'.rest ∧ c'.offset = c.offset + n := by
  have cut : takeBytes n c.rest = some (front, c'.rest) ↔
      c.rest = front ++ c'.rest ∧ byteLength front = n := takeBytes_eq_some_iff
  rw [take]
  cases taken : takeBytes n c.rest with
  | none =>
    rw [taken] at cut
    constructor
    · intro h
      cases h
    · rintro ⟨length, split, -⟩
      cases cut.2 ⟨split, length⟩
  | some pair =>
    obtain ⟨front', rest⟩ := pair
    rw [taken, Option.some.injEq, Prod.mk.injEq] at cut
    simp only [Except.ok.injEq, Prod.mk.injEq, eq_mk_iff]
    constructor
    · rintro ⟨hfront, hrest, offset⟩
      obtain ⟨split, length⟩ := cut.1 ⟨hfront, hrest⟩
      exact ⟨length, split, offset⟩
    · rintro ⟨length, split, offset⟩
      obtain ⟨hfront, hrest⟩ := cut.2 ⟨split, length⟩
      exact ⟨hfront, hrest, offset⟩

theorem separator_eq_ok_iff : c.separator = .ok c' ↔
    c.rest = '-' :: c'.rest ∧ c'.offset = c.offset + 1 := by
  rw [separator]
  split
  next rest hrest => rw [Except.ok.injEq, eq_mk_iff, hrest, List.cons.injEq, eq_self, true_and]
  next other =>
    constructor
    · intro h
      cases h
    · rintro ⟨h, -⟩
      exact absurd h (other _)

theorem lengthDigits_eq_ok_iff : c.lengthDigits = .ok (n, c') ↔
    ∃ word, Word word n ∧ c.rest = word ++ c'.rest ∧ c'.offset = c.offset + 4 := by
  rw [lengthDigits, bind_eq_ok_iff]
  constructor
  · rintro ⟨⟨word, next⟩, taken, h⟩
    obtain ⟨length, split, offset⟩ := take_eq_ok_iff.1 taken
    dsimp only at h
    split at h
    next value =>
      cases h
      exact ⟨word, word_of_hexNumber? value length, split, offset⟩
    next => cases h
  · rintro ⟨word, digits, split, offset⟩
    refine ⟨(word, c'), take_eq_ok_iff.2 ⟨digits.byteLength, split, offset⟩, ?_⟩
    simp only [hexNumber?_of_word digits]

theorem field_eq_ok_iff : c.field = .ok (front, c') ↔
    ∃ word, Word word (byteLength front) ∧ c.rest = word ++ '-' :: (front ++ c'.rest) ∧
      c'.offset = c.offset + 5 + byteLength front := by
  simp only [field, bind_eq_ok_iff, Prod.exists]
  constructor
  · rintro ⟨n, afterLength, hlength, afterSeparator, hseparator, htaken⟩
    obtain ⟨word, digits, split, offset⟩ := lengthDigits_eq_ok_iff.1 hlength
    obtain ⟨split', offset'⟩ := separator_eq_ok_iff.1 hseparator
    obtain ⟨rfl, split'', offset''⟩ := take_eq_ok_iff.1 htaken
    refine ⟨word, digits, ?_, by omega⟩
    rw [split, split', split'']
  · rintro ⟨word, digits, split, offset⟩
    refine ⟨byteLength front, ⟨c.offset + 4, '-' :: (front ++ c'.rest)⟩, ?_,
      ⟨c.offset + 5, front ++ c'.rest⟩, ?_, ?_⟩
    · exact lengthDigits_eq_ok_iff.2 ⟨word, digits, split, rfl⟩
    · exact separator_eq_ok_iff.2 ⟨rfl, rfl⟩
    · exact take_eq_ok_iff.2 ⟨rfl, rfl, offset⟩

end Cursor

/-- What is read is laid out as a handle, and everything so laid out is read. -/
theorem decode_eq_ok_iff : decode id = .ok h ↔ ∃ p q r, Layout id h p q r := by
  simp only [decode, bind_eq_ok_iff, Prod.exists, Cursor.field_eq_ok_iff,
    Cursor.separator_eq_ok_iff]
  constructor
  · rintro ⟨cluster, c₁, ⟨p, hp, split₁, -⟩, c₂, ⟨split₂, -⟩, owner, c₃, ⟨q, hq, split₃, -⟩,
      c₄, ⟨split₄, -⟩, volume, c₅, ⟨r, hr, split₅, -⟩, h⟩
    split at h
    next ended =>
      cases h
      rw [List.isEmpty_iff] at ended
      refine ⟨.ofList p, .ofList q, .ofList r, ?_, ?_, ?_, ?_⟩
      · rw [← String.toList_inj]
        simp only [String.toList_append, String.toList_ofList, List.append_assoc]
        simpa [split₁, split₂, split₃, split₄, ended] using split₅
      all_goals simp only [String.toList_ofList, byteLength_ofList]; assumption
    next => cases h
  · rintro ⟨p, q, r, layout⟩
    have split := layout.toList
    obtain ⟨-, hp, hq, hr⟩ := layout
    simp only [← byteLength_toList] at hp hq hr
    refine ⟨h.cluster.toList, ⟨_, _⟩, ⟨p.toList, hp, split, rfl⟩, ⟨_, _⟩, ⟨rfl, rfl⟩,
      h.owner.toList, ⟨_, _⟩, ⟨q.toList, hq, rfl, rfl⟩, ⟨_, _⟩, ⟨rfl, rfl⟩,
      h.volume.toList, ⟨_, []⟩, ⟨r.toList, hr, ?_, rfl⟩, ?_⟩
    · rw [List.append_nil]
    · simp [String.ofList_toList]

/-! ## Writing what was read -/

theorem Layout.encodedLength (layout : Layout id h p q r) :
    h.encodedLength = id.utf8ByteSize := by
  have split := layout.toList
  rw [← byteLength_toList, split]
  simp only [byteLength_append, byteLength, layout.cluster.byteLength, layout.owner.byteLength,
    layout.volume.byteLength, Handle.encodedLength, overhead]
  have : '-'.utf8Size = 1 := rfl
  omega

theorem toLower_eq (s : String) : s.toLower = s.map Char.toLower := rfl

theorem Layout.write (layout : Layout id h p q r) :
    String.ofList h.write = p.toLower ++ "-" ++ h.cluster ++ "-" ++ q.toLower ++ "-" ++ h.owner ++
      "-" ++ r.toLower ++ "-" ++ h.volume := by
  rw [← String.toList_inj]
  simp only [Handle.write, writeField, byteLength_toList, hexWord_of_word layout.cluster,
    hexWord_of_word layout.owner, hexWord_of_word layout.volume, String.toList_append,
    String.toList_ofList, toLower_eq, String.toList_map, List.append_assoc]
  rfl

/-! ## The grammar -/

/-- A text reads as a handle exactly when it is laid out as one, in one way only. What was read is
as long as the text, and writes back to it with its lengths in lowercase unless it is too long. -/
theorem decode_grammar (id : String) :
    (∀ h, decode id = .ok h ↔ ∃ p q r, Layout id h p q r) ∧
    (∀ h p q r h' p' q' r', Layout id h p q r → Layout id h' p' q' r' →
      h = h' ∧ p = p' ∧ q = q' ∧ r = r') ∧
    ∀ h p q r, Layout id h p q r → h.encodedLength = id.utf8ByteSize ∧
      h.encode = if id.utf8ByteSize ≤ 128
        then .ok (p.toLower ++ "-" ++ h.cluster ++ "-" ++ q.toLower ++ "-" ++ h.owner ++ "-" ++
          r.toLower ++ "-" ++ h.volume)
        else .error ⟨id.utf8ByteSize⟩ := by
  refine ⟨fun h => decode_eq_ok_iff, ?_, ?_⟩
  · intro h p q r h' p' q' r' layout layout'
    exact layout.unique layout'
  · intro h p q r layout
    refine ⟨layout.encodedLength, ?_⟩
    rw [encode, layout.encodedLength, layout.write, maxLength]

/-- Separators, digits and a wide character inside fields mislead neither reading nor writing. -/
theorem decode_grammar_misleading_fields :
    Layout "0003-é--0000--000B-0001-aéF-1" ⟨"é-", "", "0001-aéF-1"⟩ "0003" "0000" "000B" ∧
    decode "0003-é--0000--000B-0001-aéF-1" = .ok ⟨"é-", "", "0001-aéF-1"⟩ ∧
    encode ⟨"é-", "", "0001-aéF-1"⟩ = .ok "0003-é--0000--000b-0001-aéF-1" := by
  have layout : Layout "0003-é--0000--000B-0001-aéF-1" ⟨"é-", "", "0001-aéF-1"⟩
      "0003" "0000" "000B" := by decide
  obtain ⟨reads, -, writes⟩ := decode_grammar "0003-é--0000--000B-0001-aéF-1"
  refine ⟨layout, (reads _).2 ⟨_, _, _, layout⟩, ?_⟩
  have written := (writes _ _ _ _ layout).2
  rw [written, if_pos (by decide), Except.ok.injEq, ← String.toList_inj]
  simp only [toLower_eq, String.toList_append, String.toList_map]
  decide

end FuseVolumes.Handle
