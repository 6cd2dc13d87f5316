/-! Maps from text to text, as they come in requests: lists of pairs in which a key occurs
at most once. -/

namespace FuseVolumes

abbrev Dict := List (String × String)

namespace Dict

def get? (d : Dict) (key : String) : Option String := d.lookup key

/-- The value of a key, where an empty value counts as none. -/
def filled? (d : Dict) (key : String) : Option String :=
  match d.get? key with
  | some value => if value.isEmpty then none else some value
  | none => none

def contains (d : Dict) (key : String) : Bool := (d.get? key).isSome

/-- Sets the value of a key, in its place if it has one. -/
def insert : Dict → String → String → Dict
  | [], key, value => [(key, value)]
  | (k, v) :: rest, key, value =>
    if k == key then (key, value) :: rest else (k, v) :: insert rest key value

/-- Sets every pair in turn, so that later ones win. -/
def insertAll (d : Dict) (pairs : List (String × String)) : Dict :=
  pairs.foldl (fun d (key, value) => d.insert key value) d

end Dict

/-- Texts in order, each once. -/
def insertOrdered (s : String) : List String → List String
  | [] => [s]
  | t :: rest =>
    if s == t then t :: rest
    else if s < t then s :: t :: rest
    else t :: insertOrdered s rest

def orderedSet (items : List String) : List String :=
  items.foldr insertOrdered []

end FuseVolumes
