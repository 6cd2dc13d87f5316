import FuseVolumes.Mount.Info
import FuseVolumes.Proofs.Text.Utf8
import FuseVolumes.Proofs.Text.Words
import Mathlib.Data.List.Basic

/-!
# The list of mounts, written and read

`table` is what a kernel writes: a line for each mount, whose fifth field is the mount point with
some of its octets escaped. These octets are those of one text, and reading it gives the mount
points back as they were (`points_table`).
-/

namespace FuseVolumes.Mount

open Text

/-! ## How the list is written -/

def octalDigit (n : Nat) : Char := Char.ofNat (48 + n % 8)

/-- A backslash and the three digits of an octet. -/
def escape (octet : UInt8) : List Char :=
  ['\\', octalDigit (octet.toNat / 64), octalDigit (octet.toNat / 8), octalDigit octet.toNat]

/-- Which octets a kernel escapes. Those that would break the format are among them, and beyond
ASCII it escapes all or none. -/
structure Escaping where
  escapes : UInt8 → Bool
  blank : escapes 32 = true
  newline : escapes 10 = true
  backslash : escapes 92 = true
  beyondAscii : (∀ octet, 128 ≤ octet → escapes octet = true) ∨
    ∀ octet, 128 ≤ octet → escapes octet = false

/-- The escapes of a kernel that leaves what is beyond ASCII as it is. -/
def Escaping.sparing : Escaping where
  escapes octet := octet == 9 || octet == 10 || octet == 32 || octet == 92
  blank := rfl
  newline := rfl
  backslash := rfl
  beyondAscii := .inr fun octet beyond => by
    simp only [UInt8.le_iff_toNat_le, UInt8.reduceToNat] at beyond
    simp only [beq_eq_false_iff_ne, Bool.or_eq_false_iff, ne_eq, ← UInt8.toNat_inj,
      UInt8.reduceToNat]
    omega

/-- The octets of a mount point with their escapes. -/
def Escaping.write (e : Escaping) (point : List UInt8) : List UInt8 :=
  point.flatMap fun octet => if e.escapes octet then octets (escape octet) else [octet]

/-- A field that is written as it is. -/
structure Field where
  text : String
  blank : ' ' ∉ text.toList
  newline : '\n' ∉ text.toList

/-- A mount: four fields before the mount point, and at least one behind it. -/
structure Row where
  id : Field
  parent : Field
  device : Field
  root : Field
  point : String
  options : Field
  others : List Field

def Field.octets (f : Field) : List UInt8 := Text.octets f.text.toList

/-- The octets of the line of a mount. -/
def Row.octets (e : Escaping) (r : Row) : List UInt8 :=
  [32].intercalate <| [r.id.octets, r.parent.octets, r.device.octets, r.root.octets,
    e.write (Text.octets r.point.toList), r.options.octets] ++ r.others.map Field.octets

/-- The octets of the whole list. -/
def table (e : Escaping) (rows : List Row) : List UInt8 :=
  [10].intercalate (rows.map (Row.octets e))

/-! ## Escapes -/

theorem encode_octalDigit (n : Nat) :
    String.utf8EncodeChar (octalDigit n) = [UInt8.ofNat (48 + n % 8)] := by
  have digit : ∀ d < 8, String.utf8EncodeChar (Char.ofNat (48 + d)) = [UInt8.ofNat (48 + d)] := by
    decide
  exact digit _ (Nat.mod_lt n (by decide))

theorem octalValue?_digit (n : Nat) : octalValue? (UInt8.ofNat (48 + n % 8)) = some (n % 8) := by
  have digit : ∀ d < 8, octalValue? (UInt8.ofNat (48 + d)) = some d := by decide
  exact digit _ (Nat.mod_lt n (by decide))

theorem octets_escape (octet : UInt8) :
    octets (escape octet) = [92, UInt8.ofNat (48 + octet.toNat / 64 % 8),
      UInt8.ofNat (48 + octet.toNat / 8 % 8), UInt8.ofNat (48 + octet.toNat % 8)] := by
  simp only [octets, escape, List.flatMap_cons, List.flatMap_nil, encode_octalDigit]
  rfl

/-- An escape is read as its octet. -/
theorem unescapeOctets_escape (octet : UInt8) (rest : List UInt8) :
    unescapeOctets (octets (escape octet) ++ rest) = octet :: unescapeOctets rest := by
  have small := octet.toNat_lt
  have digits : octet.toNat / 64 % 8 * 64 + octet.toNat / 8 % 8 * 8 + octet.toNat % 8 =
      octet.toNat := by omega
  have value : octalOctet? (UInt8.ofNat (48 + octet.toNat / 64 % 8))
      (UInt8.ofNat (48 + octet.toNat / 8 % 8)) (UInt8.ofNat (48 + octet.toNat % 8)) =
        some octet := by
    simp only [octalOctet?, octalValue?_digit, digits]
    rw [if_pos small, UInt8.ofNat_toNat]
  rw [octets_escape]
  change unescapeOctets (92 :: _ :: _ :: _ :: rest) = _
  rw [unescapeOctets, value]

/-- An octet that begins no escape is read as itself. -/
theorem unescapeOctets_cons {octet : UInt8} (plain : octet ≠ 92) (rest : List UInt8) :
    unescapeOctets (octet :: rest) = octet :: unescapeOctets rest := by
  rw [unescapeOctets.eq_2]
  intro a b c rest' same
  exact absurd same plain

theorem unescapeOctets_write (e : Escaping) (point : List UInt8) :
    unescapeOctets (e.write point) = point := by
  induction point with
  | nil => rfl
  | cons octet point ih =>
    rw [Escaping.write, List.flatMap_cons]
    split
    · rw [unescapeOctets_escape]
      exact congrArg _ ih
    next plain =>
      have differ : octet ≠ 92 := by
        rintro rfl
        exact plain e.backslash
      rw [List.singleton_append, unescapeOctets_cons differ]
      exact congrArg _ ih

/-! ## The list as text -/

/-- A mount point with its escapes, as text. -/
def Escaping.spell (e : Escaping) (point : List Char) : List Char :=
  point.flatMap fun c =>
    if (String.utf8EncodeChar c).all e.escapes then (String.utf8EncodeChar c).flatMap escape
    else [c]

/-- The octets of a character are escaped all or none. -/
theorem Escaping.uniform (e : Escaping) (c : Char) :
    (∀ octet ∈ String.utf8EncodeChar c, e.escapes octet = true) ∨
      ∀ octet ∈ String.utf8EncodeChar c, e.escapes octet = false := by
  rcases single_or_beyond c with ⟨octet, single⟩ | beyond
  · rw [single]
    cases h : e.escapes octet <;> simp [h]
  · rcases e.beyondAscii with all | none
    · exact .inl fun octet h => all octet (beyond octet h)
    · exact .inr fun octet h => none octet (beyond octet h)

theorem Escaping.octets_spell (e : Escaping) (point : List Char) :
    octets (e.spell point) = e.write (octets point) := by
  rw [octets, spell, List.flatMap_assoc, write, octets, List.flatMap_assoc]
  refine List.flatMap_congr fun c _ => ?_
  rcases e.uniform c with all | none
  · rw [if_pos (List.all_eq_true.2 all), List.flatMap_assoc]
    refine List.flatMap_congr fun octet h => ?_
    rw [if_pos (all octet h)]
    rfl
  · obtain ⟨octet, h⟩ := List.exists_mem_of_ne_nil _ (encode_ne_nil c)
    have kept : ¬ (String.utf8EncodeChar c).all e.escapes = true := by
      intro all
      have escaped := List.all_eq_true.1 all octet h
      rw [none octet h] at escaped
      cases escaped
    calc (if (String.utf8EncodeChar c).all e.escapes then _ else [c]).flatMap String.utf8EncodeChar
        = String.utf8EncodeChar c := by rw [if_neg kept, List.flatMap_singleton]
      _ = (String.utf8EncodeChar c).flatMap ([·]) := (List.flatMap_singleton' _).symm
      _ = _ := List.flatMap_congr fun octet h => by rw [none octet h]; rfl

theorem octalDigit_plain (n : Nat) : octalDigit n ≠ ' ' ∧ octalDigit n ≠ '\n' := by
  have digit : ∀ d < 8, Char.ofNat (48 + d) ≠ ' ' ∧ Char.ofNat (48 + d) ≠ '\n' := by decide
  exact digit _ (Nat.mod_lt n (by decide))

/-- What is written of a mount point does not break its line. -/
theorem Escaping.spell_plain (e : Escaping) (point : List Char) :
    ∀ c ∈ e.spell point, c ≠ ' ' ∧ c ≠ '\n' := by
  intro c h
  obtain ⟨source, -, h⟩ := List.mem_flatMap.1 h
  split at h
  · obtain ⟨octet, -, h⟩ := List.mem_flatMap.1 h
    simp only [escape, List.mem_cons, List.not_mem_nil, or_false] at h
    rcases h with rfl | rfl | rfl | rfl
    · decide
    · exact octalDigit_plain _
    · exact octalDigit_plain _
    · exact octalDigit_plain _
  next kept =>
    obtain rfl := List.mem_singleton.1 h
    constructor
    · rintro rfl
      exact kept (by simp [show String.utf8EncodeChar ' ' = [32] from rfl, e.blank])
    · rintro rfl
      exact kept (by simp [show String.utf8EncodeChar '\n' = [10] from rfl, e.newline])

theorem Escaping.unescape_spell (e : Escaping) (point : String) :
    unescape (e.spell point.toList) = point := by
  rw [unescape, e.octets_spell, unescapeOctets_write, lossy_octets, String.ofList_toList]

/-- The line of a mount. -/
def Row.spell (e : Escaping) (r : Row) : List Char :=
  [' '].intercalate <| [r.id.text.toList, r.parent.text.toList, r.device.text.toList,
    r.root.text.toList, e.spell r.point.toList, r.options.text.toList] ++
      r.others.map (·.text.toList)

theorem Row.octets_spell (e : Escaping) (r : Row) : Text.octets (r.spell e) = r.octets e := by
  rw [spell, octets_intercalate, List.map_append, List.map_map, octets, ← e.octets_spell]
  rfl

/-- A line without the carriage return that is part of its end. -/
def withoutReturn (line : List Char) : List Char :=
  match line.getLast? with
  | some '\r' => line.dropLast
  | _ => line

theorem withoutReturn_append (front line : List Char) :
    withoutReturn (front ++ ' ' :: line) = front ++ ' ' :: withoutReturn line := by
  rcases List.eq_nil_or_concat' line with rfl | ⟨init, last, rfl⟩
  · simp [withoutReturn]
  · rw [← List.cons_append, ← List.append_assoc, withoutReturn, withoutReturn,
      List.getLast?_concat, List.getLast?_concat, List.dropLast_concat, List.dropLast_concat]
    split
    · rfl
    · rw [List.append_assoc, List.cons_append]

/-- A line with its first five fields, and what is behind them. -/
def Row.fill (e : Escaping) (r : Row) (behind : List Char) : List Char :=
  r.id.text.toList ++ ' ' :: (r.parent.text.toList ++ ' ' :: (r.device.text.toList ++ ' ' ::
    (r.root.text.toList ++ ' ' :: (e.spell r.point.toList ++ ' ' :: behind))))

theorem Row.exists_fill (e : Escaping) (r : Row) : ∃ behind, r.spell e = r.fill e behind :=
  ⟨[' '].intercalate (r.options.text.toList :: r.others.map (·.text.toList)),
    by simp [spell, fill]⟩

theorem Row.withoutReturn_fill (e : Escaping) (r : Row) (behind : List Char) :
    withoutReturn (r.fill e behind) = r.fill e (withoutReturn behind) := by
  simp only [fill, withoutReturn_append]

theorem pieces_field {field : List Char} (plain : ∀ c ∈ field, c ≠ ' ') (rest : List Char) :
    pieces (· == ' ') (field ++ ' ' :: rest) = field :: pieces (· == ' ') rest := by
  rw [pieces_append rfl, pieces_eq_self fun c h => by simpa using plain c h]
  rfl

/-- The fifth piece of a line is its mount point, whatever is behind it. -/
theorem Row.pieces_fill (e : Escaping) (r : Row) (behind : List Char) :
    (pieces (· == ' ') (r.fill e behind))[4]? = some (e.spell r.point.toList) := by
  have plain (f : Field) : ∀ c ∈ f.text.toList, c ≠ ' ' := by
    rintro c h rfl
    exact f.blank h
  rw [fill, pieces_field (plain _), pieces_field (plain _), pieces_field (plain _),
    pieces_field (plain _), pieces_field fun c h => (e.spell_plain _ c h).1]
  rfl

/-- The mount point that is read from a line. -/
def pointOf (line : List Char) : Option String :=
  ((pieces (· == ' ') line)[4]?).map unescape

theorem Row.pointOf_spell (e : Escaping) (r : Row) :
    pointOf (r.spell e) = some r.point ∧ pointOf (withoutReturn (r.spell e)) = some r.point := by
  obtain ⟨behind, spelled⟩ := r.exists_fill e
  rw [spelled, r.withoutReturn_fill, pointOf, pointOf, r.pieces_fill, r.pieces_fill,
    Option.map_some, e.unescape_spell]
  exact ⟨rfl, rfl⟩

/-- A line is not broken by what is written in it. -/
theorem Row.spell_newline (e : Escaping) (r : Row) : ∀ c ∈ r.spell e, c ≠ '\n' := by
  have plain (f : Field) : ∀ c ∈ f.text.toList, c ≠ '\n' := by
    rintro c h rfl
    exact f.newline h
  refine forall_mem_intercalate (List.forall_mem_singleton.2 (by decide)) ?_
  simp only [List.mem_append, List.mem_cons, List.mem_map, List.not_mem_nil, or_false]
  rintro text ((rfl | rfl | rfl | rfl | rfl | rfl) | ⟨f, -, rfl⟩)
  case inl.inr.inr.inr.inr.inl => exact fun c h => (e.spell_plain _ c h).2
  all_goals exact plain _

theorem Row.spell_ne_nil (e : Escaping) (r : Row) : r.spell e ≠ [] := by
  obtain ⟨behind, spelled⟩ := r.exists_fill e
  rw [spelled, fill]
  simp

/-! ## Lines -/

/-- What was joined by line ends is cut into lines again, up to carriage returns. -/
theorem lines_intercalate {init : List (List Char)} {last : List Char}
    (plain : ∀ line ∈ init ++ [last], ∀ c ∈ line, c ≠ '\n') (filled : last ≠ []) :
    lines (['\n'].intercalate (init ++ [last])) = init.map withoutReturn ++ [last] := by
  have cut : pieces (· == '\n') (['\n'].intercalate (init ++ [last])) = init ++ [last] :=
    pieces_intercalate rfl (by simp) fun line h c hc => by simpa using plain line h c hc
  rw [lines, cut, List.reverse_concat]
  have kept : ¬ last.isEmpty = true := by simpa using filled
  dsimp only
  rw [if_neg kept, List.reverse_reverse]
  rfl

/-- The text of the whole list. -/
def spellTable (e : Escaping) (rows : List Row) : List Char :=
  ['\n'].intercalate (rows.map (Row.spell e))

theorem octets_spellTable (e : Escaping) (rows : List Row) :
    octets (spellTable e rows) = table e rows := by
  rw [spellTable, octets_intercalate, List.map_map, table]
  exact congrArg _ (List.map_congr_left fun r _ => r.octets_spell e)

theorem points_spellTable (e : Escaping) (rows : List Row) :
    points (.ofList (spellTable e rows)) = rows.map (·.point) := by
  rcases List.eq_nil_or_concat' rows with rfl | ⟨init, last, rfl⟩
  · rfl
  · have plain : ∀ line ∈ init.map (Row.spell e) ++ [last.spell e], ∀ c ∈ line, c ≠ '\n' := by
      intro line h
      rw [← List.map_singleton, ← List.map_append] at h
      obtain ⟨r, -, rfl⟩ := List.mem_map.1 h
      exact r.spell_newline e
    have read : ((init.map (Row.spell e)).map withoutReturn).filterMap pointOf =
        init.map (·.point) := by
      simp [List.filterMap_map, Function.comp_def, Row.pointOf_spell]
    change (lines (String.ofList (spellTable e (init ++ [last]))).toList).filterMap pointOf = _
    rw [String.toList_ofList, spellTable, List.map_append, List.map_singleton,
      lines_intercalate plain (last.spell_ne_nil e), List.filterMap_append, read,
      List.filterMap_cons_some (last.pointOf_spell e).1, List.map_append]
    rfl

/-- **Reading undoes writing.** Whatever the mount points are, what is written of them is one text,
and the mount points read from it are those that were written, in their order. -/
theorem points_table (e : Escaping) (rows : List Row) :
    ∃ text : String, (∀ other : String, octets other.toList = table e rows ↔ other = text) ∧
      points text = rows.map (·.point) := by
  refine ⟨.ofList (spellTable e rows), fun other => ?_, points_spellTable e rows⟩
  rw [← octets_spellTable, octets_injective.eq_iff, ← String.toList_inj, String.toList_ofList]

/-! A backslash before digits, and an escape at the end of a field. -/

example :
    table .sparing [⟨⟨"22", by decide, by decide⟩, ⟨"1", by decide, by decide⟩,
      ⟨"0:51", by decide, by decide⟩, ⟨"/", by decide, by decide⟩, "/é\\040 ",
      ⟨"rw", by decide, by decide⟩, []⟩] =
        octets "22 1 0:51 / /é\\134040\\040 rw".toList ∧
      points "22 1 0:51 / /é\\134040\\040 rw" = ["/é\\040 "] := by
  decide +kernel

end FuseVolumes.Mount
