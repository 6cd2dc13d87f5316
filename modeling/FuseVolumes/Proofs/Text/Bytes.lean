import FuseVolumes.Text.Bytes

/-!
# Cuts and lengths in bytes

`takeBytes` gives the one way to split a text after so many bytes (`takeBytes_eq_some_iff`), and two
splits of one text at the same byte are the same split (`append_inj_of_byteLength`). A hexadecimal
length is four digits of either case (`Digit`, `Word`): reading gives its value (`word_iff`),
writing that value gives it back in lowercase (`hexWord_of_word`), and every value below 65536 has
such a word (`word_hexWord`).
-/

namespace FuseVolumes.Text

/-! ## Lengths and cuts -/

theorem byteLength_ofList (text : List Char) :
    (String.ofList text).utf8ByteSize = byteLength text := by
  induction text with
  | nil => simp [byteLength]
  | cons c text ih =>
    have split : String.ofList (c :: text) = String.singleton c ++ String.ofList text := by
      rw [String.singleton_eq_ofList, ← String.ofList_append]
      rfl
    rw [split, String.utf8ByteSize_append, String.utf8ByteSize_singleton, ih, byteLength]

theorem byteLength_toList (s : String) : byteLength s.toList = s.utf8ByteSize := by
  rw [← byteLength_ofList, String.ofList_toList]

theorem one_le_utf8ByteSize_iff {s : String} : 1 ≤ s.utf8ByteSize ↔ s.toList ≠ [] := by
  rw [Nat.one_le_iff_ne_zero, ne_eq, String.utf8ByteSize_eq_zero_iff, ← String.toList_eq_nil_iff]

theorem byteLength_replicate (n : Nat) : byteLength (List.replicate n 'x') = n := by
  induction n with
  | zero => rfl
  | succ n ih =>
    have one : 'x'.utf8Size = 1 := rfl
    rw [List.replicate_succ, byteLength, ih]
    omega

theorem takeBytes_append (front rest : List Char) :
    takeBytes (byteLength front) (front ++ rest) = some (front, rest) := by
  induction front with
  | nil => simp [byteLength, takeBytes]
  | cons c front ih =>
    have positive := c.utf8Size_pos
    obtain ⟨n, hn⟩ : ∃ n, byteLength (c :: front) = n + 1 :=
      ⟨byteLength (c :: front) - 1, by simp only [byteLength]; omega⟩
    have left : n + 1 - c.utf8Size = byteLength front := by
      simp only [byteLength] at hn
      omega
    have fits : ¬ n + 1 < c.utf8Size := by
      simp only [byteLength] at hn
      omega
    rw [hn, List.cons_append, takeBytes, if_neg fits, left, ih]

theorem split_of_takeBytes {n : Nat} {text front rest : List Char}
    (taken : takeBytes n text = some (front, rest)) :
    text = front ++ rest ∧ byteLength front = n := by
  fun_induction takeBytes n text generalizing front rest with
  | case1 text =>
    cases taken
    exact ⟨rfl, rfl⟩
  | case2 => cases taken
  | case3 => cases taken
  | case4 => cases taken
  | case5 n c text fits front' rest' hcut ih =>
    cases taken
    obtain ⟨rfl, length⟩ := ih hcut
    refine ⟨rfl, ?_⟩
    rw [byteLength, length]
    omega

theorem takeBytes_eq_some_iff {n : Nat} {text front rest : List Char} :
    takeBytes n text = some (front, rest) ↔ text = front ++ rest ∧ byteLength front = n := by
  constructor
  · exact split_of_takeBytes
  · rintro ⟨rfl, rfl⟩
    exact takeBytes_append front rest

/-- A text that cannot be cut is too short, or the cut would split a character. -/
theorem takeBytes_eq_none_iff {n : Nat} {text : List Char} :
    takeBytes n text = none ↔ ∀ front rest, text = front ++ rest → byteLength front ≠ n := by
  constructor
  · intro h front rest split length
    have taken := takeBytes_eq_some_iff.2 ⟨split, length⟩
    rw [h] at taken
    cases taken
  · intro h
    cases taken : takeBytes n text with
    | none => rfl
    | some pair =>
      obtain ⟨split, length⟩ := takeBytes_eq_some_iff.1 taken
      exact absurd length (h _ _ split)

/-- A text splits in one way at a byte. -/
theorem append_inj_of_byteLength {a b c d : List Char} (same : a ++ b = c ++ d)
    (length : byteLength a = byteLength c) : a = c ∧ b = d := by
  have left := takeBytes_append a b
  rw [same, length, takeBytes_append] at left
  cases left
  exact ⟨rfl, rfl⟩

/-! ## Hexadecimal lengths -/

/-- A digit of either case with its value. -/
def Digit (c : Char) (v : Nat) : Prop :=
  "0123456789abcdef".toList[v]? = some c ∨ "0123456789ABCDEF".toList[v]? = some c

instance (c : Char) (v : Nat) : Decidable (Digit c v) :=
  inferInstanceAs (Decidable (_ ∨ _))

/-- Four digits of either case with their value. -/
inductive Word : List Char → Nat → Prop
  | digits {a b c d : Char} {i j k l : Nat} (first : Digit a i) (second : Digit b j)
      (third : Digit c k) (last : Digit d l) : Word [a, b, c, d] (4096 * i + 256 * j + 16 * k + l)

theorem digit_lt {c : Char} {v : Nat} (h : Digit c v) : v < 16 := by
  rcases h with h | h
  · exact (List.getElem?_eq_some_iff.1 h).1
  · exact (List.getElem?_eq_some_iff.1 h).1

theorem hexValue?_of_digit {c : Char} {v : Nat} (h : Digit c v) : hexValue? c = some v := by
  have lower : ∀ v (h : v < 16), hexValue? ("0123456789abcdef".toList[v]) = some v := by decide
  have upper : ∀ v (h : v < 16), hexValue? ("0123456789ABCDEF".toList[v]) = some v := by decide
  rcases h with h | h
  · obtain ⟨small, rfl⟩ := List.getElem?_eq_some_iff.1 h
    exact lower v small
  · obtain ⟨small, rfl⟩ := List.getElem?_eq_some_iff.1 h
    exact upper v small

theorem hexDigit_of_digit {c : Char} {v : Nat} (h : Digit c v) : hexDigit v = c.toLower := by
  have lower : ∀ v (h : v < 16), hexDigit v = ("0123456789abcdef".toList[v]).toLower := by decide
  have upper : ∀ v (h : v < 16), hexDigit v = ("0123456789ABCDEF".toList[v]).toLower := by decide
  rcases h with h | h
  · obtain ⟨small, rfl⟩ := List.getElem?_eq_some_iff.1 h
    exact lower v small
  · obtain ⟨small, rfl⟩ := List.getElem?_eq_some_iff.1 h
    exact upper v small

theorem utf8Size_of_digit {c : Char} {v : Nat} (h : Digit c v) : c.utf8Size = 1 := by
  have lower : ∀ v (h : v < 16), ("0123456789abcdef".toList[v]).utf8Size = 1 := by decide
  have upper : ∀ v (h : v < 16), ("0123456789ABCDEF".toList[v]).utf8Size = 1 := by decide
  rcases h with h | h
  · obtain ⟨small, rfl⟩ := List.getElem?_eq_some_iff.1 h
    exact lower v small
  · obtain ⟨small, rfl⟩ := List.getElem?_eq_some_iff.1 h
    exact upper v small

theorem digit_of_hexValue? {c : Char} {v : Nat} (h : hexValue? c = some v) : Digit c v := by
  have numeral : ∀ v, v < 10 → Digit (Char.ofNat (48 + v)) v := by decide
  have lower : ∀ v, v < 16 → 10 ≤ v → Digit (Char.ofNat (87 + v)) v := by decide
  have upper : ∀ v, v < 16 → 10 ≤ v → Digit (Char.ofNat (55 + v)) v := by decide
  have back (n : Nat) (hn : n = c.toNat) : Char.ofNat n = c := by rw [hn, Char.ofNat_toNat]
  simp only [hexValue?, Char.le_def, UInt32.le_iff_toNat_le] at h
  change (if 48 ≤ c.toNat ∧ c.toNat ≤ 57 then _ else if 97 ≤ c.toNat ∧ c.toNat ≤ 102 then _
    else if 65 ≤ c.toNat ∧ c.toNat ≤ 70 then _ else _) = _ at h
  split at h
  · have value : c.toNat - 48 = v := Option.some.inj h
    have digit := numeral v (by omega)
    rwa [back (48 + v) (by omega)] at digit
  · split at h
    · have value : c.toNat - 87 = v := Option.some.inj h
      have digit := lower v (by omega) (by omega)
      rwa [back (87 + v) (by omega)] at digit
    · split at h
      · have value : c.toNat - 55 = v := Option.some.inj h
        have digit := upper v (by omega) (by omega)
        rwa [back (55 + v) (by omega)] at digit
      · cases h

theorem Word.byteLength {word : List Char} {n : Nat} (h : Word word n) :
    byteLength word = 4 := by
  obtain ⟨first, second, third, last⟩ := h
  simp only [Text.byteLength, utf8Size_of_digit first, utf8Size_of_digit second,
    utf8Size_of_digit third, utf8Size_of_digit last]

theorem hexNumber?_of_word {word : List Char} {n : Nat} (h : Word word n) :
    hexNumber? word = some n := by
  obtain ⟨first, second, third, last⟩ := h
  simp only [hexNumber?, List.foldl_cons, List.foldl_nil, Option.bind_some,
    hexValue?_of_digit first, hexValue?_of_digit second, hexValue?_of_digit third,
    hexValue?_of_digit last, Option.map_some, Option.some.injEq]
  omega

/-- Writing the value of a word gives the word in lowercase. -/
theorem hexWord_of_word {word : List Char} {n : Nat} (h : Word word n) :
    hexWord n = word.map Char.toLower := by
  obtain @⟨_, _, _, _, i, j, k, l, first, second, third, last⟩ := h
  have := digit_lt first
  have := digit_lt second
  have := digit_lt third
  have := digit_lt last
  have value : 4096 * i + 256 * j + 16 * k + l = ((i * 16 + j) * 16 + k) * 16 + l := by omega
  simp only [hexWord, List.map_cons, List.map_nil, ← hexDigit_of_digit first,
    ← hexDigit_of_digit second, ← hexDigit_of_digit third, ← hexDigit_of_digit last]
  rw [show (4096 * i + 256 * j + 16 * k + l) / 4096 % 16 = i by omega,
    show (4096 * i + 256 * j + 16 * k + l) / 256 % 16 = j by omega,
    show (4096 * i + 256 * j + 16 * k + l) / 16 % 16 = k by omega,
    show (4096 * i + 256 * j + 16 * k + l) % 16 = l by omega]

/-- A text reads as a number only if each of its characters is a digit. -/
theorem digits_of_hexNumber? {digits : List Char} {n : Nat} (h : hexNumber? digits = some n) :
    ∀ c ∈ digits, ∃ v, Digit c v := by
  have stuck (digits : List Char) :
      digits.foldl (fun n c => n.bind fun n => (hexValue? c).map (16 * n + ·)) none = none := by
    induction digits with
    | nil => rfl
    | cons c digits ih => exact ih
  have run (digits : List Char) (m : Nat)
      (h : digits.foldl (fun n c => n.bind fun n => (hexValue? c).map (16 * n + ·)) (some m)
        = some n) : ∀ c ∈ digits, ∃ v, Digit c v := by
    induction digits generalizing m with
    | nil => simp
    | cons c digits ih =>
      rw [List.foldl_cons, Option.bind_some] at h
      cases value : hexValue? c with
      | none =>
        rw [value, Option.map_none, stuck] at h
        cases h
      | some v =>
        rw [value, Option.map_some] at h
        exact List.forall_mem_cons.2 ⟨⟨v, digit_of_hexValue? value⟩, ih _ h⟩
  exact run digits 0 h

theorem byteLength_of_digits {digits : List Char} (h : ∀ c ∈ digits, ∃ v, Digit c v) :
    byteLength digits = digits.length := by
  induction digits with
  | nil => rfl
  | cons c digits ih =>
    obtain ⟨⟨v, digit⟩, rest⟩ := List.forall_mem_cons.1 h
    rw [byteLength, utf8Size_of_digit digit, ih rest, List.length_cons, Nat.add_comm]

theorem word_of_hexNumber? {word : List Char} {n : Nat} (h : hexNumber? word = some n)
    (length : byteLength word = 4) : Word word n := by
  have digits := digits_of_hexNumber? h
  rw [byteLength_of_digits digits] at length
  match word, length with
  | [a, b, c, d], _ =>
    obtain ⟨i, first⟩ := digits a (by simp)
    obtain ⟨j, second⟩ := digits b (by simp)
    obtain ⟨k, third⟩ := digits c (by simp)
    obtain ⟨l, last⟩ := digits d (by simp)
    have word := Word.digits first second third last
    rw [hexNumber?_of_word word] at h
    cases h
    exact word

theorem word_iff {word : List Char} {n : Nat} :
    Word word n ↔ hexNumber? word = some n ∧ byteLength word = 4 :=
  ⟨fun h => ⟨hexNumber?_of_word h, h.byteLength⟩, fun h => word_of_hexNumber? h.1 h.2⟩

instance (word : List Char) (n : Nat) : Decidable (Word word n) :=
  decidable_of_iff' _ word_iff

theorem digit_hexDigit {v : Nat} (h : v < 16) : Digit (hexDigit v) v := by
  have digit : ∀ v, v < 16 → Digit (hexDigit v) v := by decide
  exact digit v h

/-- A length below 65536 is written exactly. -/
theorem word_hexWord {n : Nat} (h : n < 65536) : Word (hexWord n) n := by
  have small (m : Nat) : m % 16 < 16 := Nat.mod_lt m (by decide)
  have word := Word.digits (digit_hexDigit (small (n / 4096))) (digit_hexDigit (small (n / 256)))
    (digit_hexDigit (small (n / 16))) (digit_hexDigit (small n))
  have value : 4096 * (n / 4096 % 16) + 256 * (n / 256 % 16) + 16 * (n / 16 % 16) + n % 16 = n := by
    omega
  rwa [value] at word

end FuseVolumes.Text
