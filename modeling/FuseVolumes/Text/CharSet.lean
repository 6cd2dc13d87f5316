import FuseVolumes.Text.Blank
import FuseVolumes.Text.LowerCase
import FuseVolumes.Text.Word

/-! Sets of characters as expressions, which can be compared and asked for members. -/

namespace FuseVolumes.Text

inductive CharSet
  | empty
  | range (first last : Char)
  | digit
  | blank
  | word
  | union (first second : CharSet)
  | meet (first second : CharSet)
  | complement (set : CharSet)
  /-- With the letters that differ from a member in their case only. -/
  | anyCase (set : CharSet)
  deriving DecidableEq, Repr

namespace CharSet

def one (c : Char) : CharSet := .range c c

def all : CharSet := .complement .empty

def ofRanges (ranges : List (Char × Char)) : CharSet :=
  ranges.foldr (fun (first, last) set => .union (.range first last) set) .empty

/-- Members of the first set only. -/
def minus (first second : CharSet) : CharSet := .meet first (.complement second)

/-- Members of just one of the sets. -/
def differ (first second : CharSet) : CharSet := .union (first.minus second) (second.minus first)

def contains : CharSet → Char → Bool
  | empty, _ => false
  | range first last, c => first ≤ c && c ≤ last
  | digit, c => isDecimalDigit c
  | blank, c => isBlank c
  | word, c => isWordCharacter c
  | union p q, c => p.contains c || q.contains c
  | meet p q, c => p.contains c && q.contains c
  | complement p, c => ! p.contains c
  | anyCase p, c => p.contains c || p.contains (lowerLetter c) || p.contains c.toUpper

/-- The set where the case of letters does not matter, decided before complements are taken. -/
def caseless : CharSet → CharSet
  | range first last =>
    if first = last then .union (.anyCase (one first)) (one (lowerLetter first))
    else .anyCase (.range first last)
  | union p q => .union p.caseless q.caseless
  | meet p q => .meet p.caseless q.caseless
  | complement p => .complement p.caseless
  | p => p

end CharSet

end FuseVolumes.Text
