/-! Regular patterns as values, matched against whole texts by taking the remainder of the
pattern after each character. -/

namespace FuseVolumes.Text

inductive Pattern
  | never
  | nothing
  | one (accepts : Char → Bool)
  | both (first second : Pattern)
  | either (first second : Pattern)
  | many (body : Pattern)

namespace Pattern

/-- A pattern or nothing. -/
def optional (p : Pattern) : Pattern := .either p .nothing

/-- Whether the empty text matches. -/
def nullable : Pattern → Bool
  | never => false
  | nothing => true
  | one _ => false
  | both p q => p.nullable && q.nullable
  | either p q => p.nullable || q.nullable
  | many _ => true

/-- `both`, where a side that never matches or is empty leaves nothing to do. -/
def andThen : Pattern → Pattern → Pattern
  | never, _ => never
  | nothing, q => q
  | p, q => both p q

/-- `either` without sides that never match. -/
def orElse : Pattern → Pattern → Pattern
  | never, q => q
  | p, never => p
  | p, q => either p q

/-- What must follow after a character. -/
def after (c : Char) : Pattern → Pattern
  | never => never
  | nothing => never
  | one accepts => if accepts c then nothing else never
  | both p q =>
    if p.nullable then ((p.after c).andThen q).orElse (q.after c) else (p.after c).andThen q
  | either p q => (p.after c).orElse (q.after c)
  | many p => (p.after c).andThen (many p)

def accepts (p : Pattern) : List Char → Bool
  | [] => p.nullable
  | c :: rest => (p.after c).accepts rest

end Pattern

end FuseVolumes.Text
