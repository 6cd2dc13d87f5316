import FuseVolumes.Text.CharSet

/-! Regular expressions whose alternatives are tried in order. A text that is matched character by
character has, at each place, the remainders of the expression that are still to be matched, the
preferred ones first. -/

namespace FuseVolumes.Text

/-- Places between characters. -/
inductive Edge
  | textStart
  | textEnd
  | lineStart
  | lineEnd
  deriving DecidableEq, Repr

inductive Regex
  | nothing
  | one (set : CharSet)
  | edge (edge : Edge)
  | both (first second : Regex)
  | either (first second : Regex)
  /-- Any number of times, rather often if greedy. -/
  | many (greedy : Bool) (body : Regex)
  deriving DecidableEq, Repr

/-- The characters beside a place. -/
structure Gap where
  before : Option Char
  after : Option Char
  deriving DecidableEq, Repr

def Edge.holdsAt (g : Gap) : Edge → Bool
  | .textStart => g.before.isNone
  | .textEnd => g.after.isNone
  | .lineStart => g.before.all (· == '\n')
  | .lineEnd => g.after.all (· == '\n')

namespace Regex

/-- How an expression can go on: it stops, or takes a character of a set and leaves a
remainder. -/
inductive Way
  | stop
  | take (set : CharSet) (rest : Regex)
  deriving DecidableEq, Repr

def Way.isStop : Way → Bool
  | .stop => true
  | .take _ _ => false

/-- `both`, where nothing is left out. -/
def andThen : Regex → Regex → Regex
  | nothing, q => q
  | p, q => both p q

/-- A way of a part that something follows. -/
def Way.followedBy (next : Regex) : Way → Way
  | .stop => .stop
  | .take set rest => .take set (rest.andThen next)

/-- The second ways are less preferred, and stopping twice is stopping once. -/
def Way.orElse (first second : List Way) : List Way :=
  if first.any isStop then first ++ second.filter (! ·.isStop) else first ++ second

/-- The ways on at a place, in order of preference. A repetition that took no character is not
repeated. -/
def ways (g : Gap) : Regex → List Way
  | nothing => [.stop]
  | one set => [.take set .nothing]
  | edge e => if e.holdsAt g then [.stop] else []
  | both p q => (p.ways g).flatMap fun
    | .stop => q.ways g
    | .take set rest => [.take set (rest.andThen q)]
  | either p q => Way.orElse (p.ways g) (q.ways g)
  | many greedy p =>
    let again := (p.ways g).map (Way.followedBy (many greedy p))
    if greedy then Way.orElse again [.stop] else Way.orElse [.stop] again

/-- The remainders after a character. Ways that are less preferred than stopping are given up. -/
def after (c : Char) (ways : List Way) : List Regex :=
  ((ways.takeWhile (! ·.isStop)).filterMap fun
    | .stop => none
    | .take set rest => if set.contains c then some rest else none).eraseDups

/-- Whether one of the remainders can stop at the end of the text. -/
def anyStops (remainders : List Regex) (before : Option Char) : List Char → Bool
  | [] => (remainders.flatMap (ways ⟨before, none⟩)).any Way.isStop
  | c :: rest => anyStops (after c (remainders.flatMap (ways ⟨before, some c⟩))) (some c) rest

/-- Whether a match that is found from the left ends with the text. It may start anywhere, sooner
rather than later. -/
def endsMatch (p : Regex) (text : List Char) : Bool :=
  anyStops [both (many false (one .all)) p] none text

end Regex

end FuseVolumes.Text
