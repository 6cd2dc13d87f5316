import FuseVolumes.Proofs.Handle.Grammar

/-!
# Handles written and read

What is written for a handle is laid out as that handle, as long as each field's length has a word
of four digits (`layout_write`). A whole of at most 128 bytes leaves room for no longer field, so
every handle that is written at all reads back as it was (`decode_encode`).
-/

namespace FuseVolumes.Handle

open Text

/-- A handle that is short enough to be written has no field whose length would not fit its word. -/
theorem fields_fit {h : Handle} (short : h.encodedLength ≤ maxLength) :
    h.cluster.utf8ByteSize < 65536 ∧ h.owner.utf8ByteSize < 65536 ∧
      h.volume.utf8ByteSize < 65536 := by
  simp only [encodedLength, overhead, maxLength, byteLength_toList] at short
  omega

theorem word_length {field : String} (h : field.utf8ByteSize < 65536) :
    Word (String.ofList (hexWord (byteLength field.toList))).toList field.utf8ByteSize := by
  rw [String.toList_ofList, byteLength_toList]
  exact word_hexWord h

/-- What is written is laid out as the handle. -/
theorem layout_write {h : Handle} (short : h.encodedLength ≤ maxLength) :
    Layout (.ofList h.write) h (.ofList (hexWord (byteLength h.cluster.toList)))
      (.ofList (hexWord (byteLength h.owner.toList)))
      (.ofList (hexWord (byteLength h.volume.toList))) := by
  obtain ⟨cluster, owner, volume⟩ := fields_fit short
  refine ⟨?_, word_length cluster, word_length owner, word_length volume⟩
  rw [← String.toList_inj]
  simp only [write, writeField, String.toList_append, String.toList_ofList, List.append_assoc]
  rfl

theorem encode_eq_ok_iff {h : Handle} {id : String} :
    h.encode = .ok id ↔ h.encodedLength ≤ maxLength ∧ id = .ofList h.write := by
  rw [encode]
  split
  next short => simp only [Except.ok.injEq, short, true_and, eq_comm]
  next long => simp only [reduceCtorEq, long, false_and]

theorem decode_write {h : Handle} (short : h.encodedLength ≤ maxLength) :
    decode (.ofList h.write) = .ok h :=
  decode_eq_ok_iff.2 ⟨_, _, _, layout_write short⟩

/-- Handles that are written alike are the same. -/
theorem encode_inj {h h' : Handle} {id : String} (written : h.encode = .ok id)
    (written' : h'.encode = .ok id) : h = h' := by
  obtain ⟨short, rfl⟩ := encode_eq_ok_iff.1 written
  obtain ⟨short', same⟩ := encode_eq_ok_iff.1 written'
  have reads := decode_write short
  rw [same, decode_write short'] at reads
  exact (Except.ok.inj reads).symm

/-- **Round trip.** A handle of at most 128 bytes is written in as many bytes and reads back as it
was, and a longer one is refused with its length. So no two handles are written alike. -/
theorem decode_encode (h : Handle) :
    h.encodedLength =
      17 + h.cluster.utf8ByteSize + h.owner.utf8ByteSize + h.volume.utf8ByteSize ∧
    (h.encodedLength ≤ 128 →
      ∃ id, h.encode = .ok id ∧ id.utf8ByteSize = h.encodedLength ∧ decode id = .ok h) ∧
    (128 < h.encodedLength → h.encode = .error ⟨h.encodedLength⟩) ∧
    ∀ h' id, h.encode = .ok id → h'.encode = .ok id → h = h' := by
  refine ⟨?_, fun short => ?_, fun long => ?_, fun h' id => encode_inj⟩
  · simp only [encodedLength, overhead, byteLength_toList]
  · have layout := layout_write short
    exact ⟨_, encode_eq_ok_iff.2 ⟨short, rfl⟩, layout.encodedLength.symm, decode_write short⟩
  · rw [encode, maxLength, if_neg (Nat.not_le.2 long)]

/-- At the limit wide characters count by their bytes, and fields that look like lengths and
separators come back as they were; one byte more is refused. -/
theorem decode_encode_at_limit :
    let h : Handle := ⟨"é-0001-", "-€", String.ofList (List.replicate 99 'x')⟩
    let longer : Handle := { h with owner := "-€-" }
    h.encodedLength = 128 ∧
    (∃ id, h.encode = .ok id ∧ id.utf8ByteSize = 128 ∧ decode id = .ok h) ∧
    longer.encodedLength = 129 ∧ longer.encode = .error ⟨129⟩ ∧
    ∀ id, h.encode = .ok id → longer.encode ≠ .ok id := by
  intro h longer
  have full : h.encodedLength = 128 := by decide +kernel
  have above : longer.encodedLength = 129 := by decide +kernel
  obtain ⟨-, written, -, distinct⟩ := decode_encode h
  obtain ⟨-, -, refused, -⟩ := decode_encode longer
  rw [full] at written
  rw [above] at refused
  refine ⟨full, written (by decide), above, refused (by decide), fun id hid hid' => ?_⟩
  have same : h.owner = longer.owner := congrArg Handle.owner (distinct longer id hid hid')
  revert same
  decide

end FuseVolumes.Handle
