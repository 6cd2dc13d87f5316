import FuseVolumes.Text.Blank

/-! Moments as text: a date, a `T` or a blank, a time of day, and the distance from Greenwich.
Blanks may stand before each part, and the numbers need no leading zeros. -/

namespace FuseVolumes.Text.Timestamp

def skipBlanks (text : List Char) : List Char := text.dropWhile isBlank

def value (digits : List Char) : Nat := digits.foldl (fun n c => n * 10 + (c.toNat - 48)) 0

/-- A number of at least one digit, of which no more than so many count. -/
def number? (most : Nat) (text : List Char) : Option (Nat × List Char) :=
  match (text.takeWhile Char.isDigit).take most with
  | [] => none
  | digits => some (value digits, text.drop digits.length)

/-- A number within bounds, blanks before it allowed. -/
def bounded? (least greatest : Nat) (text : List Char) : Option (Nat × List Char) := do
  let (n, rest) ← number? 2 (skipBlanks text)
  if least ≤ n && n ≤ greatest then return (n, rest) else none

/-- The rest after a mark, blanks before it allowed. -/
def mark? (mark : Char) (text : List Char) : Option (List Char) :=
  match skipBlanks text with
  | c :: rest => if c == mark then some rest else none
  | [] => none

/-! ## Date -/

/-- A year has four digits, or a sign and any number of them. -/
def year? (text : List Char) : Option (Int × List Char) :=
  match skipBlanks text with
  | '-' :: rest => (number? rest.length rest).map fun (n, rest) => (-Int.ofNat n, rest)
  | '+' :: rest => (number? rest.length rest).map fun (n, rest) => (Int.ofNat n, rest)
  | rest => (number? 4 rest).map fun (n, rest) => (Int.ofNat n, rest)

def isLeap (year : Int) : Bool := year % 4 == 0 && (year % 100 != 0 || year % 400 == 0)

def daysOf (year : Int) (month : Nat) : Nat :=
  if month = 2 then (if isLeap year then 29 else 28)
  else if [4, 6, 9, 11].contains month then 30
  else 31

/-- Years that a calendar of 32 bits can hold. -/
def isYear (year : Int) : Bool := -262143 ≤ year && year ≤ 262142

/-- The rest after a date of the calendar. -/
def date? (text : List Char) : Option (List Char) := do
  let (year, text) ← year? text
  let (month, text) ← bounded? 1 12 (← mark? '-' text)
  let (day, text) ← bounded? 1 31 (← mark? '-' text)
  if isYear year && day ≤ daysOf year month then return text else none

/-! ## Time of day -/

/-- The rest after a fraction of a second, if there is one. -/
def fraction? : List Char → Option (List Char)
  | '.' :: rest => (number? 1 rest).map fun _ => rest.dropWhile Char.isDigit
  | text => some text

/-- The rest after a time of day, where a minute may have a leap second. -/
def time? (text : List Char) : Option (List Char) := do
  let (_, text) ← bounded? 0 23 text
  let (_, text) ← bounded? 0 59 (← mark? ':' text)
  let (_, text) ← bounded? 0 60 (← mark? ':' text)
  fraction? text

/-! ## Distance from Greenwich -/

def isSeparator (c : Char) : Bool := c == ':' || isBlank c

/-- Two digits of hours and two of minutes, less than a day. -/
def distance? (text : List Char) : Option (List Char) :=
  match text with
  | a :: b :: rest =>
    match rest.dropWhile isSeparator with
    | c :: d :: rest =>
      if [a, b, c, d].all Char.isDigit && value [a, b] < 24 && value [c, d] < 60 then some rest
      else none
    | _ => none
  | _ => none

def offset? (text : List Char) : Option (List Char) :=
  match skipBlanks text with
  | 'Z' :: rest | 'z' :: rest => some rest
  | '+' :: rest | '-' :: rest | '\u2212' :: rest => distance? rest
  | u :: t :: c :: rest => if [u, t, c].map Char.toUpper == ['U', 'T', 'C'] then some rest else none
  | _ => none

def divides (c : Char) : Bool := c == 'T' || c == 't' || c == ' '

/-- Whether a text tells a moment. -/
def isMoment (text : List Char) : Bool :=
  let rest : Option (List Char) := do
    match ← date? text with
    | c :: text => if divides c then offset? (← time? text) else none
    | [] => none
  match rest with
  | some rest => (skipBlanks rest).isEmpty
  | none => false

end FuseVolumes.Text.Timestamp
