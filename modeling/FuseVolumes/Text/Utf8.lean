import FuseVolumes.Text.Bytes

/-! Reading octets as UTF-8 text where some of them may be wrong. Each longest start of a
character that is not completed is a part of its own: a lossy reading puts one replacement
character in its place, a strict one tells where the first of them is. -/

namespace FuseVolumes.Text

/-- A character, or octets that begin one and do not complete it. -/
inductive Chunk
  | char (c : Char)
  /-- So many octets that no octet after them completes. -/
  | broken (octets : Nat)
  /-- Octets at the end of the text that others could complete. -/
  | unfinished
  deriving DecidableEq, Repr

def isTail (b : UInt8) : Bool := 0x80 ≤ b ∧ b ≤ 0xBF

/-- The second octets that may follow a first octet of a character of three octets. -/
def secondOfThree (a b : UInt8) : Bool :=
  if a == 0xE0 then 0xA0 ≤ b ∧ b ≤ 0xBF
  else if a == 0xED then 0x80 ≤ b ∧ b ≤ 0x9F
  else isTail b

/-- The second octets that may follow a first octet of a character of four octets. -/
def secondOfFour (a b : UInt8) : Bool :=
  if a == 0xF0 then 0x90 ≤ b ∧ b ≤ 0xBF
  else if a == 0xF4 then 0x80 ≤ b ∧ b ≤ 0x8F
  else isTail b

/-- The low six bits of a tail octet. -/
def tailBits (b : UInt8) : Nat := b.toNat % 64

/-- All characters and parts in turn. -/
def chunks : List UInt8 → List Chunk
  | [] => []
  | a :: rest =>
    if a < 0x80 then .char (Char.ofNat a.toNat) :: chunks rest
    else if 0xC2 ≤ a ∧ a ≤ 0xDF then
      match rest with
      | [] => [.unfinished]
      | b :: rest' =>
        if isTail b then .char (Char.ofNat (a.toNat % 32 * 64 + tailBits b)) :: chunks rest'
        else .broken 1 :: chunks (b :: rest')
    else if 0xE0 ≤ a ∧ a ≤ 0xEF then
      match rest with
      | [] => [.unfinished]
      | b :: rest' =>
        if secondOfThree a b then
          match rest' with
          | [] => [.unfinished]
          | c :: rest'' =>
            if isTail c then
              .char (Char.ofNat (a.toNat % 16 * 4096 + tailBits b * 64 + tailBits c))
                :: chunks rest''
            else .broken 2 :: chunks (c :: rest'')
        else .broken 1 :: chunks (b :: rest')
    else if 0xF0 ≤ a ∧ a ≤ 0xF4 then
      match rest with
      | [] => [.unfinished]
      | b :: rest' =>
        if secondOfFour a b then
          match rest' with
          | [] => [.unfinished]
          | c :: rest'' =>
            if isTail c then
              match rest'' with
              | [] => [.unfinished]
              | d :: rest''' =>
                if isTail d then
                  .char (Char.ofNat (a.toNat % 8 * 262144 + tailBits b * 4096 + tailBits c * 64
                    + tailBits d)) :: chunks rest'''
                else .broken 3 :: chunks (d :: rest''')
            else .broken 2 :: chunks (c :: rest'')
        else .broken 1 :: chunks (b :: rest')
    else .broken 1 :: chunks rest

/-! ## Lossy reading -/

def replacement : Char := '\uFFFD'

def Chunk.lossy : Chunk → Char
  | .char c => c
  | .broken _ | .unfinished => replacement

def lossy (octets : List UInt8) : List Char := (chunks octets).map Chunk.lossy

/-! ## Strict reading -/

/-- Octets that are no text: from which one on, and how many of them no further octet could
complete. -/
structure Garbled where
  start : Nat
  octets : Option Nat
  deriving DecidableEq, Repr

def Garbled.message (g : Garbled) : String :=
  match g.octets with
  | some n => s!"invalid utf-8 sequence of {n} bytes from index {g.start}"
  | none => s!"incomplete utf-8 byte sequence from index {g.start}"

/-- The characters after octets that were read before, or the first garbled octets. -/
def characters : Nat → List Chunk → Except Garbled (List Char)
  | _, [] => .ok []
  | start, .char c :: rest => (characters (start + c.utf8Size) rest).map (c :: ·)
  | start, .broken n :: _ => .error ⟨start, some n⟩
  | start, .unfinished :: _ => .error ⟨start, none⟩

def strict (octets : List UInt8) : Except Garbled String :=
  (characters 0 (chunks octets)).map .ofList

end FuseVolumes.Text
