import FuseVolumes.Text.Blank

/-! Spans of time as people write them: numbers, maybe with a fraction, each followed by a
unit. -/

namespace FuseVolumes.Text

/-- A span of seconds and nanoseconds. -/
structure Duration where
  seconds : Nat
  nanoseconds : Nat
  deriving DecidableEq, Repr

namespace Duration

inductive Unit
  | nanosecond
  | microsecond
  | millisecond
  | second
  | minute
  | hour
  | day
  | week
  | month
  | year
  deriving DecidableEq, Repr

/-- The spellings of the units. -/
def spellings : List (Unit × List String) :=
  [(.nanosecond, ["nanos", "nsec", "ns"]),
    (.microsecond, ["usec", "us", "µs"]),
    (.millisecond, ["millis", "msec", "ms"]),
    (.second, ["seconds", "second", "secs", "sec", "s"]),
    (.minute, ["minutes", "minute", "min", "mins", "m"]),
    (.hour, ["hours", "hour", "hrs", "hr", "h"]),
    (.day, ["days", "day", "d"]),
    (.week, ["weeks", "week", "wk", "wks", "w"]),
    (.month, ["months", "month", "M"]),
    (.year, ["years", "year", "yr", "yrs", "y"])]

def unit? (name : List Char) : Option Unit :=
  (spellings.find? (·.2.contains (String.ofList name))).map (·.1)

/-- How a unit is counted: in nanoseconds, or in seconds. -/
inductive Count
  | nanoseconds (n : Nat)
  | seconds (n : Nat)
  deriving DecidableEq, Repr

/-- What a whole unit counts. Months and years have their average length. -/
def Unit.whole : Unit → Count
  | .nanosecond => .nanoseconds 1
  | .microsecond => .nanoseconds 1000
  | .millisecond => .nanoseconds 1000000
  | .second => .seconds 1
  | .minute => .seconds 60
  | .hour => .seconds 3600
  | .day => .seconds 86400
  | .week => .seconds 604800
  | .month => .seconds 2630016
  | .year => .seconds 31557600

/-- What a unit counts when it is divided: parts of seconds and minutes are nanoseconds, parts of
longer units are seconds, and a nanosecond has no parts. -/
def Unit.divided? : Unit → Option Count
  | .nanosecond => none
  | .second => some (.nanoseconds 1000000000)
  | .minute => some (.nanoseconds 60000000000)
  | unit => some unit.whole

/-- Numbers have 64 bits. -/
def limit : Nat := 18446744073709551616

/-- The nanoseconds of a second. -/
def second : Nat := 1000000000

def within? (n : Nat) : Option Nat := if n < limit then some n else none

/-- A part of a unit: a numerator over a power of ten. -/
structure Fraction where
  numerator : Nat
  denominator : Nat
  deriving DecidableEq, Repr

/-! ## Numbers -/

def isUnitChar (c : Char) : Bool := c.isAlpha || c == 'µ'

/-- Digits with blanks between them, after the value so far. -/
def whole : Nat → List Char → Option (Nat × List Char)
  | n, [] => some (n, [])
  | n, c :: rest =>
    if c.isDigit then (within? (n * 10 + (c.toNat - 48))).bind (whole · rest)
    else if isBlank c then whole n rest
    else some (n, c :: rest)

/-- The digits after a point, with blanks between them. -/
def fraction : Fraction → List Char → Option (Fraction × List Char)
  | f, [] => some (f, [])
  | f, c :: rest =>
    if c.isDigit then
      match within? (f.numerator * 10 + (c.toNat - 48)), within? (f.denominator * 10) with
      | some numerator, some denominator => fraction ⟨numerator, denominator⟩ rest
      | _, _ => none
    else if isBlank c then fraction f rest
    else some (f, c :: rest)

/-- A number with the fraction it may have. -/
def number (text : List Char) : Option (Nat × Option Fraction × List Char) := do
  let (n, rest) ← whole 0 text
  match rest with
  | '.' :: rest =>
    let (f, rest) ← fraction ⟨0, 1⟩ rest
    if f.denominator = 1 then none else return (n, some f, rest)
  | rest => return (n, none, rest)

/-! ## Sums -/

/-- Why a text gives no span. -/
inductive Fault
  | unreadable
  /-- It adds up to a second more than can be told. -/
  | unrepresentable
  deriving DecidableEq, Repr

/-- A span of seconds and at most a second of nanoseconds. -/
def make (seconds nanoseconds : Nat) : Except Fault Duration :=
  if nanoseconds < second then .ok ⟨seconds, nanoseconds⟩
  else if seconds + 1 < limit then .ok ⟨seconds + 1, nanoseconds - second⟩
  else .error .unrepresentable

/-- What is there, or the fault of a text that cannot be read. -/
def readable {α : Type} (value : Option α) : Except Fault α := value.elim (.error .unreadable) .ok

/-- Adds seconds and nanoseconds. Nanoseconds beyond a second are carried first; exactly a second
of them is left to the sum. -/
def add (d : Duration) (seconds nanoseconds : Nat) : Except Fault Duration := do
  let nanoseconds ← readable (within? (d.nanoseconds + nanoseconds))
  let carried := if second < nanoseconds then nanoseconds / second else 0
  let seconds ← readable (within? (seconds + carried))
  make (← readable (within? (d.seconds + seconds))) (nanoseconds - carried * second)

/-- Adds so many units. -/
def addCount (d : Duration) (n : Nat) : Count → Except Fault Duration
  | .nanoseconds k => do d.add 0 (← readable (within? (n * k)))
  | .seconds k => do d.add (← readable (within? (n * k))) 0

/-- A fraction of a number, if it is a whole number. -/
def Fraction.of? (f : Fraction) (n : Nat) : Option Nat := do
  let product ← within? (f.numerator * n)
  if product % f.denominator = 0 then return product / f.denominator else none

/-- Adds a part of a unit, which has to come out even. -/
def addFraction (d : Duration) (f : Fraction) (unit : Unit) : Except Fault Duration := do
  match ← readable unit.divided? with
  | .nanoseconds k => d.add 0 (← readable (f.of? k))
  | .seconds k => d.add (← readable (f.of? k)) 0

/-- Whether a unit may end before this rest of a text. -/
def endsUnit : List Char → Bool
  | [] => true
  | c :: _ => c.isDigit || isBlank c

/-- Numbers with units up to the end of the text, added to what came before. -/
def parts : Nat → Duration → List Char → Except Fault Duration
  | 0, _, _ => .error .unreadable
  | fuel + 1, d, text => do
    let (n, f, rest) ← readable (number text)
    let unit ← readable (unit? (rest.takeWhile isUnitChar))
    let rest := rest.dropWhile isUnitChar
    if ! endsUnit rest then throw .unreadable
    let d ← d.addCount n unit.whole
    let d ← match f with
      | some f => d.addFraction f unit
      | none => .ok d
    match rest.dropWhile isBlank with
    | [] => return d
    | c :: rest => if c.isDigit then parts fuel d (c :: rest) else throw .unreadable

/-- Reads a span; a zero needs no unit. -/
def parse (text : String) : Except Fault Duration :=
  if text == "0" then .ok ⟨0, 0⟩
  else
    match text.toList.dropWhile isBlank with
    | [] => .error .unreadable
    | c :: rest =>
      if c.isDigit then parts (rest.length + 1) ⟨0, 0⟩ (c :: rest) else .error .unreadable

end Duration

end FuseVolumes.Text
