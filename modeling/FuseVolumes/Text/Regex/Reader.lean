import FuseVolumes.Text.Alphanumeric
import FuseVolumes.Text.Bytes
import FuseVolumes.Text.Regex

/-! Reading regular expressions. A reader takes what it needs from the front of the text and gives
back the rest; what cannot be read is refused as a whole. -/

namespace FuseVolumes.Text.Regex

/-- How the letters, the point and the edges of an expression are meant. -/
structure Flags where
  anyCase : Bool
  byLine : Bool
  pointTakesAll : Bool
  swapGreed : Bool
  deriving DecidableEq, Repr

namespace Flags

/-- How an expression is meant unless it says otherwise. -/
def start : Flags := ⟨false, false, false, false⟩

def set (f : Flags) (c : Char) (value : Bool) : Option Flags :=
  match c with
  | 'i' => some { f with anyCase := value }
  | 'm' => some { f with byLine := value }
  | 's' => some { f with pointTakesAll := value }
  | 'U' => some { f with swapGreed := value }
  | 'u' => if value then some f else none
  | _ => none

/-- Reads letters to a colon or a closing parenthesis; those behind a minus sign are taken back,
and no letter comes twice. `dangling` says that a minus sign is the last that was read. -/
def read (f : Flags) (seen : List Char) (value dangling : Bool) :
    List Char → Option (Flags × List Char)
  | [] => none
  | ':' :: rest => if dangling then none else some (f, ':' :: rest)
  | ')' :: rest => if dangling || seen.isEmpty then none else some (f, ')' :: rest)
  | '-' :: rest => if value then read f seen false true rest else none
  | c :: rest =>
    if seen.contains c then none
    else
      match f.set c value with
      | some f => read f (c :: seen) value false rest
      | none => none

end Flags

/-! ## Escapes -/

/-- What stands for itself or for a set or an edge. -/
inductive Atom
  | literal (c : Char)
  | set (set : CharSet)
  | edge (edge : Edge)
  deriving DecidableEq, Repr

/-- The characters that mean something unless they are escaped. -/
def isOperator (c : Char) : Bool := "\\.+*?()|[]\x7b\x7d^$#&-~".toList.contains c

/-- Signs that may be escaped without need. -/
def isIdleEscape (c : Char) : Bool :=
  c.toNat < 128 && ! c.isAlphanum && c != '<' && c != '>'

/-- A character by the `n` hexadecimal digits of its number. -/
def readNumbered (n : Nat) (text : List Char) : Option (Atom × List Char) := do
  let digits := text.take n
  if digits.length < n then failure
  let number ← hexNumber? digits
  if number.isValidChar then return (.literal (Char.ofNat number), text.drop n) else failure

/-- Reads what follows a backslash. -/
def readEscape : List Char → Option (Atom × List Char)
  | [] => none
  | 'x' :: rest => readNumbered 2 rest
  | 'u' :: rest => readNumbered 4 rest
  | 'U' :: rest => readNumbered 8 rest
  | 'd' :: rest => some (.set .digit, rest)
  | 'D' :: rest => some (.set (.complement .digit), rest)
  | 's' :: rest => some (.set .blank, rest)
  | 'S' :: rest => some (.set (.complement .blank), rest)
  | 'w' :: rest => some (.set .word, rest)
  | 'W' :: rest => some (.set (.complement .word), rest)
  | 'a' :: rest => some (.literal '\x07', rest)
  | 'f' :: rest => some (.literal '\x0c', rest)
  | 't' :: rest => some (.literal '\t', rest)
  | 'n' :: rest => some (.literal '\n', rest)
  | 'r' :: rest => some (.literal '\r', rest)
  | 'v' :: rest => some (.literal '\x0b', rest)
  | 'A' :: rest => some (.edge .textStart, rest)
  | 'z' :: rest => some (.edge .textEnd, rest)
  | c :: rest => if isOperator c || isIdleEscape c then some (.literal c, rest) else none

/-! ## Sets in brackets -/

/-- Sets of ASCII characters by name. -/
def namedSet? (name : String) : Option CharSet :=
  match name with
  | "alnum" => some (.ofRanges [('0', '9'), ('A', 'Z'), ('a', 'z')])
  | "alpha" => some (.ofRanges [('A', 'Z'), ('a', 'z')])
  | "ascii" => some (.range '\x00' '\x7f')
  | "blank" => some (.ofRanges [('\t', '\t'), (' ', ' ')])
  | "cntrl" => some (.ofRanges [('\x00', '\x1f'), ('\x7f', '\x7f')])
  | "digit" => some (.range '0' '9')
  | "graph" => some (.range '!' '~')
  | "lower" => some (.range 'a' 'z')
  | "print" => some (.range ' ' '~')
  | "punct" => some (.ofRanges [('!', '/'), (':', '@'), ('[', '\x60'), ('\x7b', '~')])
  | "space" => some (.ofRanges [('\t', '\r'), (' ', ' ')])
  | "upper" => some (.range 'A' 'Z')
  | "word" => some (.ofRanges [('0', '9'), ('A', 'Z'), ('_', '_'), ('a', 'z')])
  | "xdigit" => some (.ofRanges [('0', '9'), ('A', 'F'), ('a', 'f')])
  | _ => none

/-- Reads the name of a set between colons, and the bracket that closes it. -/
def readName? : List Char → Option (CharSet × List Char)
  | ':' :: text =>
    let (negated, text) := match text with
      | '^' :: rest => (true, rest)
      | text => (false, text)
    match text.dropWhile (· != ':') with
    | ':' :: ']' :: rest =>
      (namedSet? (.ofList (text.takeWhile (· != ':')))).map fun set =>
        (if negated then .complement set else set, rest)
    | _ => none
  | _ => none

/-- Operations between sets, from the left. -/
inductive Operation
  | meet
  | minus
  | differ
  deriving DecidableEq, Repr

def Operation.apply : Operation → CharSet → CharSet → CharSet
  | .meet, p, q => .meet p q
  | .minus, p, q => p.minus q
  | .differ, p, q => p.differ q

/-- A set in brackets as far as it is read: whether it is a complement, an operand that an
operation waits on, and the operand at hand. -/
structure OpenSet where
  negated : Bool
  waiting : Option (CharSet × Operation)
  hand : CharSet
  deriving DecidableEq, Repr

namespace OpenSet

def add (o : OpenSet) (set : CharSet) : OpenSet := { o with hand := .union o.hand set }

/-- The members without regard to the complement. -/
def members (o : OpenSet) : CharSet :=
  match o.waiting with
  | some (operand, operation) => operation.apply operand o.hand
  | none => o.hand

def operate (o : OpenSet) (operation : Operation) : OpenSet :=
  { o with waiting := some (o.members, operation), hand := .empty }

def close (o : OpenSet) : CharSet := if o.negated then .complement o.members else o.members

/-- Reads what follows an opening bracket. Minus signs there, or else a closing bracket, stand for
themselves. -/
def read (text : List Char) : OpenSet × List Char :=
  let (negated, text) := match text with
    | '^' :: rest => (true, rest)
    | text => (false, text)
  match text with
  | ']' :: rest => (⟨negated, none, .one ']'⟩, rest)
  | '-' :: rest => (⟨negated, none, .one '-'⟩, rest.dropWhile (· == '-'))
  | text => (⟨negated, none, .empty⟩, text)

end OpenSet

/-- Reads an end of a range. -/
def readItem (text : List Char) : Option (Atom × List Char) :=
  match text with
  | [] => none
  | '\\' :: rest => readEscape rest
  | c :: rest => some (.literal c, rest)

/-- Whether a minus sign in front of the text makes a range. -/
def makesRange : List Char → Bool
  | ']' :: _ => false
  | '-' :: _ => false
  | _ => true

def readRange (text : List Char) : Option (CharSet × List Char) := do
  let (first, rest) ← readItem text
  match first, rest with
  | _, [] => failure
  | first, '-' :: rest =>
    if makesRange rest then
      let (last, rest) ← readItem rest
      match first, last with
      | .literal a, .literal b => if a ≤ b then return (.range a b, rest) else failure
      | _, _ => failure
    else
      match first with
      | .literal c => return (.one c, '-' :: rest)
      | .set set => return (set, '-' :: rest)
      | .edge _ => failure
  | .literal c, rest => return (.one c, rest)
  | .set set, rest => return (set, rest)
  | .edge _, _ => failure

/-- Reads the items of a set and its closing bracket; `around` are the sets it stands in, the
innermost first, and `fuel` bounds the steps. -/
def readSet : Nat → OpenSet → List OpenSet → List Char → Option (CharSet × List Char)
  | 0, _, _, _ => none
  | _, _, _, [] => none
  | _ + 1, o, [], ']' :: rest => some (o.close, rest)
  | fuel + 1, o, outer :: around, ']' :: rest => readSet fuel (outer.add o.close) around rest
  | fuel + 1, o, around, '&' :: '&' :: rest => readSet fuel (o.operate .meet) around rest
  | fuel + 1, o, around, '-' :: '-' :: rest => readSet fuel (o.operate .minus) around rest
  | fuel + 1, o, around, '~' :: '~' :: rest => readSet fuel (o.operate .differ) around rest
  | fuel + 1, o, around, '[' :: rest =>
    match readName? rest with
    | some (set, rest) => readSet fuel (o.add set) around rest
    | none =>
      let (inner, rest) := OpenSet.read rest
      readSet fuel inner (o :: around) rest
  | fuel + 1, o, around, text =>
    match readRange text with
    | some (set, rest) => readSet fuel (o.add set) around rest
    | none => none

/-! ## Groups -/

/-- A group as far as it is read: the flags at hand, the branches behind it, and the items of the
branch at hand, the last first. A change of flags is an item that cannot be repeated. -/
structure OpenGroup where
  flags : Flags
  branches : List Regex
  items : List (Option Regex)
  deriving DecidableEq, Repr

namespace OpenGroup

def start (flags : Flags) : OpenGroup := ⟨flags, [], []⟩

def add (o : OpenGroup) (p : Regex) : OpenGroup := { o with items := some p :: o.items }

def setFlags (o : OpenGroup) (flags : Flags) : OpenGroup :=
  { o with flags, items := none :: o.items }

/-- The items one after the other. -/
def branch (o : OpenGroup) : Regex :=
  o.items.foldl (fun p item => (item.getD .nothing).andThen p) .nothing

def nextBranch (o : OpenGroup) : OpenGroup := ⟨o.flags, o.branch :: o.branches, []⟩

def close (o : OpenGroup) : Regex := o.branches.foldl (fun p branch => .either branch p) o.branch

def addSet (o : OpenGroup) (set : CharSet) : OpenGroup :=
  o.add (.one (if o.flags.anyCase then set.caseless else set))

def addAtom (o : OpenGroup) : Atom → OpenGroup
  | .literal c => o.addSet (.one c)
  | .set set => o.addSet set
  | .edge e => o.add (.edge e)

/-- Repeats the last item. -/
def again (o : OpenGroup) (repetition : Bool → Regex → Regex) (greedy : Bool) :
    Option OpenGroup :=
  match o.items with
  | some p :: items =>
    some { o with items := some (repetition (greedy != o.flags.swapGreed) p) :: items }
  | _ => none

end OpenGroup

/-- At most once. -/
def optional (greedy : Bool) (p : Regex) : Regex :=
  if greedy then .either p .nothing else .either .nothing p

def atLeastOnce (greedy : Bool) (p : Regex) : Regex := .both p (.many greedy p)

/-- Whether a group may be named so. -/
def isGroupName : List Char → Bool
  | [] => false
  | c :: rest => (c == '_' || (isAlphanumeric c && ! c.isDigit))
    && rest.all fun c => c == '_' || c == '.' || c == '[' || c == ']' || isAlphanumeric c

/-- What follows the opening parenthesis of a group, or a change of the flags around it. -/
inductive GroupStart
  | inner (flags : Flags)
  | change (flags : Flags)
  deriving DecidableEq, Repr

def readGroupName (flags : Flags) (text : List Char) : Option (GroupStart × List Char) :=
  match text.dropWhile (· != '>') with
  | '>' :: rest =>
    if isGroupName (text.takeWhile (· != '>')) then some (.inner flags, rest) else none
  | _ => none

def readGroupStart (flags : Flags) : List Char → Option (GroupStart × List Char)
  | '?' :: 'P' :: '<' :: rest => readGroupName flags rest
  | '?' :: '<' :: rest => readGroupName flags rest
  | '?' :: rest =>
    match flags.read [] true false rest with
    | some (flags, ':' :: rest) => some (.inner flags, rest)
    | some (flags, _ :: rest) => some (.change flags, rest)
    | _ => none
  | rest => some (.inner flags, rest)

/-- The sign of a lazy repetition, if it is there. -/
def readLazy : List Char → Bool × List Char
  | '?' :: rest => (false, rest)
  | rest => (true, rest)

/-- Reads a group to its end, where `around` are the groups it stands in, the innermost first, and
`fuel` bounds the steps. -/
def readGroup : Nat → OpenGroup → List OpenGroup → List Char → Option Regex
  | 0, _, _, _ => none
  | _ + 1, o, [], [] => some o.close
  | _ + 1, _, _ :: _, [] => none
  | fuel + 1, o, around, c :: rest =>
    let repeated (repetition : Bool → Regex → Regex) : Option Regex :=
      let (greedy, rest) := readLazy rest
      match o.again repetition greedy with
      | some o => readGroup fuel o around rest
      | none => none
    match c with
    | '(' =>
      match readGroupStart o.flags rest with
      | some (.inner flags, rest) => readGroup fuel (.start flags) (o :: around) rest
      | some (.change flags, rest) => readGroup fuel (o.setFlags flags) around rest
      | none => none
    | ')' =>
      match around with
      | outer :: around => readGroup fuel (outer.add o.close) around rest
      | [] => none
    | '|' => readGroup fuel o.nextBranch around rest
    | '*' => repeated .many
    | '+' => repeated atLeastOnce
    | '?' => repeated optional
    | '\x7b' => none
    | '[' =>
      let (inner, rest) := OpenSet.read rest
      match readSet (rest.length + 1) inner [] rest with
      | some (set, rest) => readGroup fuel (o.addSet set) around rest
      | none => none
    | '\\' =>
      match readEscape rest with
      | some (atom, rest) => readGroup fuel (o.addAtom atom) around rest
      | none => none
    | '.' =>
      let point := if o.flags.pointTakesAll then .all else .complement (.one '\n')
      readGroup fuel (o.add (.one point)) around rest
    | '^' =>
      readGroup fuel (o.add (.edge (if o.flags.byLine then .lineStart else .textStart))) around rest
    | '$' =>
      readGroup fuel (o.add (.edge (if o.flags.byLine then .lineEnd else .textEnd))) around rest
    | c => readGroup fuel (o.addSet (.one c)) around rest

/-- Reads an expression. Repetitions by count cannot be read. -/
def parse? (text : List Char) : Option Regex :=
  readGroup (text.length + 1) (.start .start) [] text

end FuseVolumes.Text.Regex
