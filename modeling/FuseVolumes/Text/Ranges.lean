/-! Sets of characters as runs of code points. -/

namespace FuseVolumes.Text

/-- First and last code point of each run, in order. -/
abbrev Ranges := List (Nat × Nat)

/-- Whether a character is in one of the runs: only the first run that does not end before it can
hold it. -/
def Ranges.contains (ranges : Ranges) (c : Char) : Bool :=
  match ranges.find? fun (_, last) => c.toNat ≤ last with
  | some (first, _) => first ≤ c.toNat
  | none => false

end FuseVolumes.Text
