import FuseVolumes.Text.Utf8

/-!
# Texts and their octets

Reading the octets of a character gives that character, whatever is behind them (`chunks_encode`).
So a lossy reading of the octets of a text is that text (`lossy_octets`), and no two texts have the
same octets.
-/

namespace FuseVolumes.Text

/-! ## Characters of one to four octets -/

section Octets

variable {a b c d : UInt8}

theorem chunks_one (first : a.toNat < 128) (rest : List UInt8) :
    chunks (a :: rest) = .char (Char.ofNat a.toNat) :: chunks rest := by
  rw [chunks.eq_def]
  exact if_pos (UInt8.lt_iff_toNat_lt.2 first)

theorem isTail_iff : isTail b = true ↔ 128 ≤ b.toNat ∧ b.toNat ≤ 191 := by
  simp [isTail, UInt8.le_iff_toNat_le]

theorem chunks_two (first : 194 ≤ a.toNat ∧ a.toNat ≤ 223) (second : isTail b = true)
    (rest : List UInt8) :
    chunks (a :: b :: rest) =
      .char (Char.ofNat (a.toNat % 32 * 64 + b.toNat % 64)) :: chunks rest := by
  rw [chunks.eq_def]
  simp only [UInt8.lt_iff_toNat_lt, UInt8.le_iff_toNat_le, UInt8.reduceToNat]
  rw [if_neg (by omega), if_pos first, if_pos second, tailBits]

theorem chunks_three (first : 224 ≤ a.toNat ∧ a.toNat ≤ 239) (second : secondOfThree a b = true)
    (third : isTail c = true) (rest : List UInt8) :
    chunks (a :: b :: c :: rest) =
      .char (Char.ofNat (a.toNat % 16 * 4096 + b.toNat % 64 * 64 + c.toNat % 64)) ::
        chunks rest := by
  rw [chunks.eq_def]
  simp only [UInt8.lt_iff_toNat_lt, UInt8.le_iff_toNat_le, UInt8.reduceToNat]
  rw [if_neg (by omega), if_neg (by omega), if_pos first, if_pos second, if_pos third]
  rfl

theorem chunks_four (first : 240 ≤ a.toNat ∧ a.toNat ≤ 244) (second : secondOfFour a b = true)
    (third : isTail c = true) (fourth : isTail d = true) (rest : List UInt8) :
    chunks (a :: b :: c :: d :: rest) =
      .char (Char.ofNat (a.toNat % 8 * 262144 + b.toNat % 64 * 4096 + c.toNat % 64 * 64
        + d.toNat % 64)) :: chunks rest := by
  rw [chunks.eq_def]
  simp only [UInt8.lt_iff_toNat_lt, UInt8.le_iff_toNat_le, UInt8.reduceToNat]
  rw [if_neg (by omega), if_neg (by omega), if_neg (by omega), if_pos first, if_pos second,
    if_pos third, if_pos fourth]
  rfl

/-- No character of three octets could do with two, or is a surrogate. -/
theorem secondOfThree_iff :
    secondOfThree a b = true ↔ 128 ≤ b.toNat ∧ b.toNat ≤ 191 ∧
      (a.toNat = 224 → 160 ≤ b.toNat) ∧ (a.toNat = 237 → b.toNat ≤ 159) := by
  simp only [secondOfThree, beq_iff_eq, ← UInt8.toNat_inj, UInt8.reduceToNat]
  split
  · simp [UInt8.le_iff_toNat_le]
    omega
  · split
    · simp [UInt8.le_iff_toNat_le]
      omega
    · rw [isTail_iff]
      omega

/-- No character of four octets could do with three, or is beyond the last one. -/
theorem secondOfFour_iff :
    secondOfFour a b = true ↔ 128 ≤ b.toNat ∧ b.toNat ≤ 191 ∧
      (a.toNat = 240 → 144 ≤ b.toNat) ∧ (a.toNat = 244 → b.toNat ≤ 143) := by
  simp only [secondOfFour, beq_iff_eq, ← UInt8.toNat_inj, UInt8.reduceToNat]
  split
  · simp [UInt8.le_iff_toNat_le]
    omega
  · split
    · simp [UInt8.le_iff_toNat_le]
      omega
    · rw [isTail_iff]
      omega

end Octets

/-! ## Reading what was written -/

theorem toNat_octet {n : Nat} (h : n < 256) : (UInt8.ofNat n).toNat = n := by
  rw [UInt8.toNat_ofNat', Nat.mod_eq_of_lt h]

/-- Any octet behind the first one. -/
theorem toNat_tail (n : Nat) : (UInt8.ofNat (n % 64 + 128)).toNat = n % 64 + 128 :=
  toNat_octet (by omega)

theorem isTail_tail (n : Nat) : isTail (UInt8.ofNat (n % 64 + 128)) = true := by
  rw [isTail_iff, toNat_tail]
  omega

/-- The octets of a character are read as that character, whatever is behind them. -/
theorem chunks_encode (c : Char) (rest : List UInt8) :
    chunks (String.utf8EncodeChar c ++ rest) = .char c :: chunks rest := by
  have back {n : Nat} (h : n = c.val.toNat) : Char.ofNat n = c := by
    rw [h]
    exact Char.ofNat_toNat c
  have valid : c.val.toNat < 55296 ∨ 57343 < c.val.toNat ∧ c.val.toNat < 1114112 := c.valid
  fun_cases String.utf8EncodeChar c with
  | case1 v small =>
    change v ≤ 127 at small
    have first : (UInt8.ofNat v).toNat = v := toNat_octet (by omega)
    rw [List.singleton_append, chunks_one (by omega), first, back rfl]
  | case2 v large small =>
    change ¬ v ≤ 127 at large
    change v ≤ 2047 at small
    have first : (UInt8.ofNat (v / 64 % 32 + 192)).toNat = v / 64 % 32 + 192 :=
      toNat_octet (by omega)
    change chunks (.ofNat (v / 64 % 32 + 192) :: .ofNat (v % 64 + 128) :: rest) = _
    rw [chunks_two (by omega) (isTail_tail _), first, toNat_tail, back (by omega)]
  | case3 v _ large small =>
    change ¬ v ≤ 2047 at large
    change v ≤ 65535 at small
    have first : (UInt8.ofNat (v / 4096 % 16 + 224)).toNat = v / 4096 % 16 + 224 :=
      toNat_octet (by omega)
    change chunks (.ofNat (v / 4096 % 16 + 224) :: .ofNat (v / 64 % 64 + 128) ::
      .ofNat (v % 64 + 128) :: rest) = _
    rw [chunks_three (by omega) (secondOfThree_iff.2 (by rw [first, toNat_tail]; omega))
      (isTail_tail _), first, toNat_tail, toNat_tail, back (by omega)]
  | case4 v _ _ large =>
    change ¬ v ≤ 65535 at large
    have first : (UInt8.ofNat (v / 262144 % 8 + 240)).toNat = v / 262144 % 8 + 240 :=
      toNat_octet (by omega)
    change chunks (.ofNat (v / 262144 % 8 + 240) :: .ofNat (v / 4096 % 64 + 128) ::
      .ofNat (v / 64 % 64 + 128) :: .ofNat (v % 64 + 128) :: rest) = _
    rw [chunks_four (by omega) (secondOfFour_iff.2 (by rw [first, toNat_tail]; omega))
      (isTail_tail _) (isTail_tail _), first, toNat_tail, toNat_tail, toNat_tail,
      back (by omega)]

/-! ## Octets of texts -/

theorem octets_append (a b : List Char) : octets (a ++ b) = octets a ++ octets b :=
  List.flatMap_append

theorem octets_intercalate (separator : List Char) (texts : List (List Char)) :
    octets (separator.intercalate texts) = (octets separator).intercalate (texts.map octets) := by
  induction texts with
  | nil => rfl
  | cons text texts ih =>
    cases texts with
    | nil => simp
    | cons next texts =>
      rw [List.intercalate_cons_cons, octets_append, octets_append, ih, List.map_cons,
        List.map_cons, List.map_cons, List.intercalate_cons_cons]

theorem encode_ne_nil (c : Char) : String.utf8EncodeChar c ≠ [] := by
  fun_cases String.utf8EncodeChar c <;> exact List.cons_ne_nil _ _

/-- A character is one octet, or none of its octets is ASCII. -/
theorem single_or_beyond (c : Char) :
    (∃ octet, String.utf8EncodeChar c = [octet]) ∨
      ∀ octet ∈ String.utf8EncodeChar c, 128 ≤ octet := by
  fun_cases String.utf8EncodeChar c with
  | case1 => exact .inl ⟨_, rfl⟩
  | case2 | case3 | case4 =>
    refine .inr ?_
    simp only [List.forall_mem_cons, List.not_mem_nil, false_implies, implies_true, and_true,
      UInt8.le_iff_toNat_le, UInt8.toNat_ofNat', UInt8.reduceToNat]
    omega

theorem chunks_octets (text : List Char) : chunks (octets text) = text.map .char := by
  induction text with
  | nil => rfl
  | cons c text ih =>
    rw [octets, List.flatMap_cons, chunks_encode]
    exact congrArg _ ih

/-- A lossy reading of a text loses nothing. -/
theorem lossy_octets (text : List Char) : lossy (octets text) = text := by
  rw [lossy, chunks_octets, List.map_map]
  exact List.map_id text

theorem octets_injective : Function.Injective octets :=
  Function.LeftInverse.injective lossy_octets

end FuseVolumes.Text
