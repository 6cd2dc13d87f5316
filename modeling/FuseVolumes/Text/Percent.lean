import FuseVolumes.Text.Bytes

/-! Octets in which a percent sign and two hexadecimal digits stand for an octet. -/

namespace FuseVolumes.Text

def percentSign : UInt8 := 0x25

/-- The value of an octet that is a hexadecimal digit of either case. -/
def hexOctet? (octet : UInt8) : Option Nat := hexValue? (Char.ofNat octet.toNat)

/-- The octet that two digits stand for. -/
def hexPair? (high low : UInt8) : Option UInt8 :=
  match hexOctet? high, hexOctet? low with
  | some high, some low => some (UInt8.ofNat (16 * high + low))
  | _, _ => none

/-- The octets meant. A percent sign without two digits stands for itself. -/
def percentDecoded : List UInt8 → List UInt8
  | sign :: high :: low :: rest =>
    if sign == percentSign then
      match hexPair? high low with
      | some octet => octet :: percentDecoded rest
      | none => sign :: percentDecoded (high :: low :: rest)
    else sign :: percentDecoded (high :: low :: rest)
  | octets => octets

end FuseVolumes.Text
