import FuseVolumes.Text.Blank
import FuseVolumes.Text.Utf8

/-! The kernel's list of mounts, one line each with fields between blanks. The fifth field is
the mount point, in which characters that would break the format are written as a backslash
and three octal digits. -/

namespace FuseVolumes.Mount

def octalValue? (b : UInt8) : Option Nat :=
  if 48 ≤ b ∧ b ≤ 55 then some (b.toNat - 48) else none

/-- The octet of three digits, which may be too large for one. -/
def octalOctet? (a b c : UInt8) : Option UInt8 :=
  match octalValue? a, octalValue? b, octalValue? c with
  | some a, some b, some c =>
    let n := a * 64 + b * 8 + c
    if n < 256 then some (.ofNat n) else none
  | _, _, _ => none

/-- Undoes the escapes of a mount point; a backslash that starts none stands for itself. -/
def unescapeOctets : List UInt8 → List UInt8
  | 92 :: a :: b :: c :: rest =>
    match octalOctet? a b c with
    | some octet => octet :: unescapeOctets rest
    | none => 92 :: unescapeOctets (a :: b :: c :: rest)
  | octet :: rest => octet :: unescapeOctets rest
  | [] => []

def unescape (path : List Char) : String :=
  .ofList (Text.lossy (unescapeOctets (Text.octets path)))

/-- Lines, without their ends. What follows the last line end is a line unless empty. -/
def lines (text : List Char) : List (List Char) :=
  match (Text.pieces (· == '\n') text).reverse with
  | [] => []
  | last :: ended =>
    let ended := ended.reverse.map fun line =>
      match line.getLast? with
      | some '\r' => line.dropLast
      | _ => line
    if last.isEmpty then ended else ended ++ [last]

/-- The mount points of a list. -/
def points (text : String) : List String :=
  (lines text.toList).filterMap fun line =>
    ((Text.pieces (· == ' ') line)[4]?).map unescape

end FuseVolumes.Mount
