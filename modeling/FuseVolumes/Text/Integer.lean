/-! Reading whole numbers within bounds: an optional sign, then decimal digits. -/

namespace FuseVolumes.Text

/-- Why a text is no number of the wanted kind. -/
inductive IntegerError
  | empty
  | invalidDigit
  | tooLarge
  | tooSmall
  deriving DecidableEq, Repr

def IntegerError.message : IntegerError → String
  | .empty => "cannot parse integer from empty string"
  | .invalidDigit => "invalid digit found in string"
  | .tooLarge => "number too large to fit in target type"
  | .tooSmall => "number too small to fit in target type"

def digitValue? (c : Char) : Option Nat :=
  if c.isDigit then some (c.toNat - 48) else none

/-- Reads digits after `soFar`, of which the first fault from the left decides: a character
that is no digit, or a value beyond the limit. -/
def readDigits (limit : Nat) (beyond : IntegerError) :
    Nat → List Char → Except IntegerError Nat
  | soFar, [] => .ok soFar
  | soFar, c :: rest =>
    match digitValue? c with
    | none => .error .invalidDigit
    | some d =>
      if limit < soFar * 10 + d then .error beyond
      else readDigits limit beyond (soFar * 10 + d) rest

/-- A number from `-below` to `limit`; without room below zero a minus sign is no sign. -/
def readInteger (below limit : Nat) (text : List Char) : Except IntegerError Int :=
  match text with
  | [] => .error .empty
  | ['+'] | ['-'] => .error .invalidDigit
  | '+' :: digits => (readDigits limit .tooLarge 0 digits).map Int.ofNat
  | '-' :: digits =>
    if below = 0 then .error .invalidDigit
    else (readDigits below .tooSmall 0 digits).map fun n => - Int.ofNat n
  | digits => (readDigits limit .tooLarge 0 digits).map Int.ofNat

/-- A signed number of 64 bits. -/
def readInt64 (text : List Char) : Except IntegerError Int :=
  readInteger 9223372036854775808 9223372036854775807 text

/-- An unsigned number of 64 bits. -/
def readUInt64 (text : List Char) : Except IntegerError Int :=
  readInteger 0 18446744073709551615 text

end FuseVolumes.Text
