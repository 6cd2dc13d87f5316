import FuseVolumes.Json
import FuseVolumes.Text.Base64
import FuseVolumes.Text.Timestamp

/-! Which JSON values are objects of a kind. Members that a kind does not know may hold anything;
a member that it knows has to have the shape that the kind gives it, or be null. -/

namespace FuseVolumes.Orchestrator

inductive Shape
  | text
  /-- A certain text. -/
  | constant (text : String)
  | flag
  /-- A whole number below a limit and not below the limit with a minus sign. -/
  | whole (limit : Nat)
  | wholeOrText
  | moment
  /-- Octets as text in base 64; null stands for none. -/
  | octets
  | anything
  | list (item : Shape)
  | dict (value : Shape)
  | record (fields : List (String × Shape))
  deriving Repr

namespace Shape

/-- Limit of the numbers of 32 bits. -/
def narrow : Nat := 2147483648

/-- Limit of the numbers of 64 bits. -/
def wide : Nat := 9223372036854775808

def int32 : Shape := whole narrow
def int64 : Shape := whole wide

/-- Amounts are texts whose form nobody looks at. -/
def quantity : Shape := text

def isWithin (limit : Nat) (n : Int) : Bool := -Int.ofNat limit ≤ n && n < Int.ofNat limit

def isMoment (text : String) : Bool := Text.Timestamp.isMoment text.toList

def isCoded (text : String) : Bool := (Text.base64Decode text.toList).isSome

/-- Whether a member may be null. -/
def isOptional : Shape → Bool
  | constant _ => false
  | _ => true

mutual

/-- Whether a value has a shape. -/
def fits : Shape → Json → Bool
  | text, j => j.text?.isSome
  | constant expected, j => j.text? == some expected
  | flag, j => j.isFlag
  | whole limit, j => j.whole?.any (isWithin limit)
  | wholeOrText, j => j.text?.isSome || j.whole?.any (isWithin narrow)
  | moment, j => j.text?.any isMoment
  | octets, j => j.isNull || j.text?.any isCoded
  | anything, _ => true
  | list item, .array items => items.all fun j => fits item j
  | dict value, .object members => members.all fun m => fits value m.2
  | record fields, .object members => members.all fun m => fitsMember fields m.1 m.2
  | _, _ => false

/-- Whether a member has the shape of the field of its name. -/
def fitsMember : List (String × Shape) → Option String → Json → Bool
  | [], _, _ => true
  | field :: rest, key, j =>
    if some field.1 == key then fits field.2 j || isOptional field.2 && j.isNull
    else fitsMember rest key j

end

/-- Fields of one shape. -/
def each (shape : Shape) (names : List String) : List (String × Shape) := names.map (·, shape)

def texts (names : List String) : List (String × Shape) := each text names
def flags (names : List String) : List (String × Shape) := each flag names

end Shape

end FuseVolumes.Orchestrator
