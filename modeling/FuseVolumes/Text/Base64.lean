/-! Octets written with 64 letters, four for every three octets, padded and without stray
bits. -/

namespace FuseVolumes.Text

def base64Value? (c : Char) : Option Nat :=
  if 'A' ≤ c ∧ c ≤ 'Z' then some (c.toNat - 65)
  else if 'a' ≤ c ∧ c ≤ 'z' then some (c.toNat - 71)
  else if '0' ≤ c ∧ c ≤ '9' then some (c.toNat + 4)
  else if c == '+' then some 62
  else if c == '/' then some 63
  else none

/-- The octets of a last group, in which the bits that no octet uses are zero. -/
def base64Last (a b : Nat) : Option Nat → Option (List UInt8)
  | none => if b % 16 = 0 then some [.ofNat (a * 4 + b / 16)] else none
  | some c =>
    if c % 4 = 0 then some [.ofNat (a * 4 + b / 16), .ofNat (b % 16 * 16 + c / 4)] else none

/-- Strict: full groups only, padding only in the last one. -/
def base64Decode : List Char → Option (List UInt8)
  | [] => some []
  | a :: b :: c :: d :: rest =>
    match base64Value? a, base64Value? b with
    | some a, some b =>
      if c == '=' && d == '=' && rest.isEmpty then base64Last a b none
      else
        match base64Value? c with
        | none => none
        | some c =>
          if d == '=' && rest.isEmpty then base64Last a b (some c)
          else
            match base64Value? d, base64Decode rest with
            | some d, some octets =>
              some (.ofNat (a * 4 + b / 16) :: .ofNat (b % 16 * 16 + c / 4)
                :: .ofNat (c % 4 * 64 + d) :: octets)
            | _, _ => none
    | _, _ => none
  | _ => none

end FuseVolumes.Text
