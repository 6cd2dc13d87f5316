import FuseVolumes.Text.Blank
import FuseVolumes.Text.Bytes

/-! Requests for a named object go to an address that is put together from its parts as they are.
Parts with characters that mean something in an address therefore reach another object, or
nothing at all. -/

namespace FuseVolumes.Orchestrator

/-! ## Addresses -/

/-- Whether a path can hold a character as it is. -/
def isPathChar (c : Char) : Bool :=
  c == '!' || c == '"' || ('$' ≤ c && c ≤ ';') || c == '=' || ('@' ≤ c && c ≤ '_')
    || ('a' ≤ c && c ≤ '~')

/-- Whether the query behind a path can hold a character as it is. -/
def isQueryChar (c : Char) : Bool :=
  c == '!' || ('$' ≤ c && c ≤ ';') || c == '=' || ('?' ≤ c && c ≤ '~')

/-- Addresses are not longer than this. -/
def addressLimit : Nat := 65534

/-- The path of an address that can be sent. -/
def path? (address : List Char) : Option (List Char) :=
  let path := address.takeWhile fun c => c != '?' && c != '#'
  let query := ((address.drop path.length).takeWhile (· != '#')).drop 1
  if path.all isPathChar && query.all isQueryChar && Text.byteLength address ≤ addressLimit then
    some path
  else none

/-! ## Named objects -/

/-- An object of a kind by its name, and by its namespace if the kind has namespaces. -/
structure Target where
  kind : String
  «namespace» : Option String
  name : String
  deriving DecidableEq, Repr

namespace Target

def root : String := "/api/v1/"

def scope : String := "namespaces"

def address (t : Target) : String :=
  let place := match t.«namespace» with
    | some ns => s!"{scope}/{ns}/"
    | none => ""
  s!"{root}{place}{t.kind}/{t.name}?"

/-- What a path below the root asks for; what follows a name does not matter. -/
def ofSegments : List String → Target
  | first :: ns :: rest =>
    if first == scope then ⟨rest.head?.getD "", some ns, rest[1]?.getD ""⟩ else ⟨first, none, ns⟩
  | [kind] => ⟨kind, none, ""⟩
  | [] => ⟨"", none, ""⟩

def ofPath (path : List Char) : Target :=
  ofSegments ((Text.pieces (· == '/') (path.drop root.length)).map String.ofList)

/-- What arrives of a request, if it is sent. Without a name none is sent. -/
def sent? (t : Target) : Option Target :=
  if t.name.isEmpty then none else (path? t.address.toList).map ofPath

end Target

end FuseVolumes.Orchestrator
