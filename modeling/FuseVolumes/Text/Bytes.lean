/-! Text measured in the bytes of its UTF-8 form: lengths, cuts that never split a
character, and hexadecimal lengths of four digits. -/

namespace FuseVolumes.Text

/-- Number of bytes of the UTF-8 form. -/
def byteLength : List Char → Nat
  | [] => 0
  | c :: rest => c.utf8Size + byteLength rest

/-- Splits after exactly `n` bytes; nothing when the text is shorter or the cut would
fall inside a character. -/
def takeBytes : Nat → List Char → Option (List Char × List Char)
  | 0, text => some ([], text)
  | _ + 1, [] => none
  | n + 1, c :: rest =>
    if n + 1 < c.utf8Size then none
    else
      match takeBytes (n + 1 - c.utf8Size) rest with
      | none => none
      | some (front, back) => some (c :: front, back)

theorem byteLength_append (a b : List Char) :
    byteLength (a ++ b) = byteLength a + byteLength b := by
  induction a with
  | nil => simp [byteLength]
  | cons c a ih => simp [byteLength, ih]; omega

/-- Octets of the UTF-8 form. -/
def octets (text : List Char) : List UInt8 :=
  text.flatMap String.utf8EncodeChar

/-! ## Hexadecimal digits -/

def hexDigit (n : Nat) : Char :=
  if n < 10 then Char.ofNat (48 + n) else Char.ofNat (87 + n)

/-- The value of a digit of either case. -/
def hexValue? (c : Char) : Option Nat :=
  if '0' ≤ c ∧ c ≤ '9' then some (c.toNat - 48)
  else if 'a' ≤ c ∧ c ≤ 'f' then some (c.toNat - 87)
  else if 'A' ≤ c ∧ c ≤ 'F' then some (c.toNat - 55)
  else none

def isHexDigit (c : Char) : Bool := (hexValue? c).isSome

/-- The value of a run of digits, most significant first. -/
def hexNumber? (digits : List Char) : Option Nat :=
  digits.foldl (fun n c => n.bind fun n => (hexValue? c).map (16 * n + ·)) (some 0)

/-- Four lowercase digits, exact below 65536. -/
def hexWord (n : Nat) : List Char :=
  [hexDigit (n / 4096 % 16), hexDigit (n / 256 % 16), hexDigit (n / 16 % 16), hexDigit (n % 16)]

/-- Lowercase digits without padding, at most eight of them. -/
def hexShort (n : Nat) : List Char :=
  let digits := (List.range 8).map fun i => hexDigit (n / Nat.pow 16 (7 - i) % 16)
  match digits.dropWhile (· == '0') with
  | [] => ['0']
  | digits => digits

end FuseVolumes.Text
