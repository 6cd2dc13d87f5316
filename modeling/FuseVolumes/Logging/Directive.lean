import FuseVolumes.Event
import FuseVolumes.Text.Integer
import FuseVolumes.Text.Regex.Reader

/-! Directives of a log filter: the level down to which events pass, for the events of one part, or
during one kind of work, or beside one value. A directive reads
`part[work{value=pattern}]=level`, where what is not needed may be left out. -/

namespace FuseVolumes

/-- What is asked of a value beside its name. -/
inductive Expectation
  /-- A number or a truth value, which no text is. -/
  | figure
  | text (pattern : List Char) (regex : Text.Regex)
  deriving DecidableEq, Repr

/-- A level to let pass and everything above it, or nothing. -/
structure Directive where
  /-- What the names of the parts start with. -/
  target : String
  span : Option String
  field : Option (String × Option Expectation)
  threshold : Option Level
  deriving DecidableEq, Repr

namespace Directive

def everything (threshold : Option Level) : Directive := ⟨"", none, none, threshold⟩

/-- Whether it is about work that is going on. -/
def isAboutWork (d : Directive) : Bool := d.span.isSome || d.field.isSome

def asksValue (d : Directive) : Bool := d.field.any (·.2.isSome)

/-- Whether it is about events, whatever work is going on. -/
def isAboutEvents (d : Directive) : Bool := d.span.isNone && ! d.asksValue

/-- Why a directive cannot be read: it has no sense, or a part that is read out of it starts or
ends within a character. -/
inductive Error
  | senseless
  | splitCharacter
  deriving DecidableEq, Repr

/-! ## Levels and values -/

/-- A level by number, or by name in letters of any case. -/
def threshold? (text : List Char) : Option (Option Level) :=
  match (Text.readUInt64 text).toOption with
  | some 0 => some none
  | some 1 => some (some .error)
  | some 2 => some (some .warn)
  | some 3 => some (some .info)
  | some 4 => some (some .debug)
  | some 5 => some (some .trace)
  | _ =>
    match String.ofList (text.map Char.toLower) with
    | "off" => some none
    | "error" => some (some .error)
    | "warn" => some (some .warn)
    | "info" => some (some .info)
    | "debug" => some (some .debug)
    | "trace" => some (some .trace)
    | _ => none

/-- Without a sign at its start. -/
def unsigned : List Char → List Char
  | '+' :: rest => rest
  | '-' :: rest => rest
  | text => text

/-- Nothing, or an exponent of ten. -/
def isExponent : List Char → Bool
  | [] => true
  | c :: rest => c.toLower == 'e' && ! (unsigned rest).isEmpty && (unsigned rest).all Char.isDigit

/-- Whether a text is a decimal number, infinite or none, or a truth value. -/
def isFigure (text : List Char) : Bool :=
  let number := unsigned text
  let whole := number.takeWhile Char.isDigit
  let decimal := match number.dropWhile Char.isDigit with
    | '.' :: rest =>
      ! (whole.isEmpty && (rest.takeWhile Char.isDigit).isEmpty)
        && isExponent (rest.dropWhile Char.isDigit)
    | rest => ! whole.isEmpty && isExponent rest
  decimal || ["inf", "infinity", "nan"].contains (String.ofList (number.map Char.toLower))
    || ["true", "false"].contains (String.ofList text)

def expectation (text : List Char) : Except Error Expectation :=
  if isFigure text then .ok .figure
  else
    match Text.Regex.parse? text with
    | some regex => .ok (.text text regex)
    | none => .error .senseless

/-- A name, and what is asked of its value behind an equals sign. What follows a second one is
left out. -/
def readField (text : List Char) : Except Error (String × Option Expectation) :=
  match text, Text.pieces (· == '=') text with
  | [], _ => .error .senseless
  | _, name :: value :: _ => do return (.ofList name, some (← expectation value))
  | name, _ => .ok (.ofList name, none)

/-! ## Reading -/

/-- Where a reader is in a directive; a part that it is in has begun at some byte. -/
inductive Place
  | start
  | levelOrTarget (begun : Nat)
  | span (begun : Nat)
  | field (begun : Nat)
  | fieldEnd
  | spanEnd
  | level (begun : Nat)
  deriving DecidableEq, Repr

/-- A directive as far as it is read. -/
structure Draft where
  place : Place
  directive : Directive
  deriving DecidableEq, Repr

/-- The bytes of a text from one place to another, or to its end. -/
def cut (text : List Char) (start : Nat) (stop : Option Nat) : Except Error (List Char) :=
  match Text.takeBytes start text, stop with
  | none, _ => .error .splitCharacter
  | some (_, rest), none => .ok rest
  | some (_, rest), some stop =>
    match Text.takeBytes (stop - start) rest with
    | some (part, _) => .ok part
    | none => .error .splitCharacter

def isTargetStart (c : Char) : Bool := c == '-' || c == ':' || c == '_' || Text.isAlphanumeric c

/-- Reads the character at a byte. -/
def Draft.read (text : List Char) (d : Draft) (byte : Nat) (c : Char) : Except Error Draft :=
  match d.place, c with
  | .start, '[' => .ok { d with place := .span (byte + 1) }
  | .start, c =>
    if isTargetStart c then .ok { d with place := .levelOrTarget byte } else .error .senseless
  | .levelOrTarget begun, '=' => do
    let target ← cut text begun (some byte)
    return ⟨.level (byte + 1), { d.directive with target := .ofList target }⟩
  | .levelOrTarget begun, '[' => do
    let target ← cut text begun (some byte)
    return ⟨.span (byte + 1), { d.directive with target := .ofList target }⟩
  | .span begun, ']' => do
    let span ← cut text begun (some byte)
    return ⟨.spanEnd, { d.directive with span := some (.ofList span) }⟩
  | .span begun, '\x7b' => do
    let span ← cut text begun (some byte)
    let span := if span.isEmpty then none else some (String.ofList span)
    return ⟨.field (byte + 1), { d.directive with span }⟩
  | .field begun, '\x7d' => do
    let field ← readField (← cut text begun (some byte))
    return ⟨.fieldEnd, { d.directive with field := some field }⟩
  | .fieldEnd, ']' => .ok { d with place := .spanEnd }
  | .spanEnd, '=' => .ok { d with place := .level (byte + 1) }
  | .fieldEnd, _ => .error .senseless
  | .spanEnd, _ => .error .senseless
  | _, _ => .ok d

/-- Reads characters from a byte on. -/
def Draft.readAll (text : List Char) (d : Draft) (byte : Nat) : List Char → Except Error Draft
  | [] => .ok d
  | c :: rest =>
    match d.read text byte c with
    | .ok d => d.readAll text (byte + c.utf8Size) rest
    | .error e => .error e

/-- The directive at the end of its text. What may be a level or a target is a level if it can be;
a target without a level lets everything pass. -/
def Draft.finish (text : List Char) (d : Draft) : Except Error Directive :=
  match d.place with
  | .levelOrTarget begun => do
    let rest ← cut text begun none
    match threshold? rest with
    | some threshold => return { d.directive with threshold }
    | none => return { d.directive with target := .ofList rest }
  | .level begun => do
    let rest ← cut text begun none
    if rest.isEmpty then return d.directive
    match threshold? rest with
    | some threshold => return { d.directive with threshold }
    | none => throw .senseless
  | .spanEnd => .ok d.directive
  | _ => .error .senseless

/-- Reads a directive. Blanks around it are passed over, but the places of its parts are counted
without those in front of it. -/
def parse (text : List Char) : Except Error Directive := do
  let draft ← Draft.readAll text ⟨.start, everything (some .trace)⟩ 0 (Text.trim text)
  draft.finish text

end Directive

end FuseVolumes
