import FuseVolumes.Fault
import FuseVolumes.Path
import FuseVolumes.Text.Bytes

/-! The files of a host as a tree, and what the system calls on paths answer. A path is
walked name by name from the root or the working directory; links do not occur. -/

namespace FuseVolumes.Host

/-- The names from the root down to an entry. -/
abbrev Place := List String

inductive Entry
  | directory
  /-- A file, whose content may be no text. -/
  | file (text : Option String) (executable : Bool)
  | socket
  deriving DecidableEq, Repr

/-- Everything but the root, where other file systems are mounted, on which sockets someone
listens, and the number of key files made so far. -/
structure Tree where
  entries : List (Place × Entry)
  mountPoints : List Place
  workingDirectory : Place
  listening : List Place
  keyFiles : Nat
  deriving Repr

/-- What every host has. -/
def Tree.base : Tree where
  entries :=
    [["bin"], ["usr"], ["usr", "bin"], ["etc"], ["dev"], ["proc"], ["proc", "self"], ["sys"],
      ["tmp"], ["root"], ["opt"], ["run"], ["var"], ["var", "lib"], ["var", "tmp"],
      ["work"]].map (·, .directory)
    ++ [["bin", "sh"], ["usr", "bin", "sh"], ["bin", "true"], ["usr", "bin", "true"],
      ["bin", "false"], ["usr", "bin", "false"]].map (·, .file none true)
    ++ [(["dev", "null"], .file (some "") false)]
  mountPoints := [[], ["proc"], ["dev"], ["sys"]]
  workingDirectory := ["work"]
  listening := []
  keyFiles := 0

namespace Tree

def entry? (t : Tree) (place : Place) : Option Entry :=
  if place.isEmpty then some .directory else t.entries.lookup place

def isMounted (t : Tree) (place : Place) : Bool := t.mountPoints.contains place

/-! ## Walking -/

/-- The longest path and the longest name in it, in bytes. -/
def pathLimit : Nat := 4095
def nameLimit : Nat := 255

/-- One step down, up, or nowhere. -/
def step (t : Tree) (place : Place) (name : String) : Except Fault Place :=
  match t.entry? place with
  | some .directory =>
    if name = "." then .ok place
    else if name = ".." then .ok place.dropLast
    else if Text.byteLength name.toList > nameLimit then .error .nameTooLong
    else if (t.entry? (place ++ [name])).isSome then .ok (place ++ [name])
    else .error .notFound
  | _ => .error .notDirectory

def walk (t : Tree) (place : Place) : List String → Except Fault Place
  | [] => .ok place
  | name :: names =>
    match t.step place name with
    | .ok place => t.walk place names
    | .error fault => .error fault

/-- A path ready to be walked. -/
structure Route where
  start : Place
  names : List String
  /-- The path ends in a slash, and so stands for a directory. -/
  closed : Bool

def route (t : Tree) (path : String) : Except Fault Route :=
  if path.toList.contains '\x00' then .error .nulInPath
  else if path.isEmpty then .error .notFound
  else if Text.byteLength path.toList > pathLimit then .error .nameTooLong
  else
    let names := ((Path.pieces path).filter (! ·.isEmpty)).map String.ofList
    .ok ⟨if Path.isAbsolute path then [] else t.workingDirectory, names, Path.endsInSlash path⟩

/-- The place a path leads to, and what is there. -/
def find (t : Tree) (path : String) : Except Fault (Place × Entry) := do
  let route ← t.route path
  let place ← t.walk route.start route.names
  match t.entry? place with
  | none => .error .notFound
  | some .directory => .ok (place, .directory)
  | some entry => if route.closed then .error .notDirectory else .ok (place, entry)

/-- The place of the directory above the last name of a path, and that name. -/
def findParent (t : Tree) (path : String) : Except Fault (Place × Option String × Bool) := do
  let route ← t.route path
  match route.names.reverse with
  | [] => .ok (route.start, none, route.closed)
  | name :: above =>
    let place ← t.walk route.start above.reverse
    if t.entry? place ≠ some .directory then .error .notDirectory
    else .ok (place, some name, route.closed)

def isDirectory (t : Tree) (path : String) : Bool :=
  match t.find path with
  | .ok (_, .directory) => true
  | _ => false

/-! ## Changing -/

def put (t : Tree) (place : Place) (entry : Entry) : Tree :=
  { t with entries := (place, entry) :: t.entries.filter (·.1 != place) }

def erase (t : Tree) (place : Place) : Tree :=
  { t with entries := t.entries.filter (·.1 != place) }

/-- Where a new name is to go, or the fault that forbids it. -/
def vacant (t : Tree) (path : String) (taken : Fault) : Except Fault Place := do
  match ← t.findParent path with
  | (_, none, _) | (_, some ".", _) | (_, some "..", _) => .error taken
  | (place, some name, _) =>
    if Text.byteLength name.toList > nameLimit then .error .nameTooLong
    else if (t.entry? (place ++ [name])).isSome then .error taken
    else .ok (place ++ [name])

def makeDirectory (t : Tree) (path : String) : Except Fault Tree := do
  let place ← t.vacant path .alreadyExists
  return t.put place .directory

/-- Makes a directory once its parents are there. What exists already as a directory is as
good as made. -/
def makeLast (t : Tree) (path : String) : Except Fault Unit × Tree :=
  match t.makeDirectory path with
  | .ok t => (.ok (), t)
  | .error fault => (if t.isDirectory path then .ok () else .error fault, t)

/-- Makes a directory with its parents, of which there are at most `depth`. -/
def makeDirectoriesBelow : Nat → Tree → String → Except Fault Unit × Tree
  | 0, t, path => t.makeLast path
  | depth + 1, t, path =>
    if path.isEmpty then (.ok (), t)
    else
      match t.makeDirectory path with
      | .ok t => (.ok (), t)
      | .error fault =>
        if fault ≠ .notFound then t.makeLast path
        else
          match Path.parent? path with
          | none => (.error fault, t)
          | some above =>
            match makeDirectoriesBelow depth t above with
            | (.error fault, t) => (.error fault, t)
            | (.ok (), t) => t.makeLast path

/-- Makes a directory and all its parents. -/
def makeDirectories (t : Tree) (path : String) : Except Fault Unit × Tree :=
  t.makeDirectoriesBelow (path.toList.length + 1) path

/-- Removes a file or socket. -/
def removeFile (t : Tree) (path : String) : Except Fault Tree := do
  match ← t.findParent path with
  | (_, none, _) | (_, some ".", _) | (_, some "..", _) => .error .isDirectory
  | (place, some name, closed) =>
    let place ← t.step place name
    match t.entry? place with
    | some .directory => .error .isDirectory
    | _ => if closed then .error .notDirectory else .ok (t.erase place)

/-- Removes an empty directory. -/
def removeDirectory (t : Tree) (path : String) : Except Fault Tree := do
  match ← t.findParent path with
  | (_, none, _) => .error .busy
  | (_, some ".", _) => .error .invalidArgument
  | (_, some "..", _) => .error .notEmpty
  | (place, some name, _) =>
    let place ← t.step place name
    if t.entry? place ≠ some .directory then .error .notDirectory
    else if t.isMounted place then .error .busy
    else if t.entries.any fun (other, _) => other.length > place.length && place.isPrefixOf other
      then .error .notEmpty
    else .ok (t.erase place)

/-! ## Reading and writing -/

def readText (t : Tree) (path : String) : Except Fault String := do
  match ← t.find path with
  | (_, .directory) => .error .isDirectory
  | (_, .socket) => .error .noDevice
  | (_, .file (some text) _) => .ok text
  | (_, .file none _) => .error .invalidText

/-- Reads the names in a directory. -/
def readDirectory (t : Tree) (path : String) : Except Fault Unit := do
  match ← t.find path with
  | (_, .directory) => .ok ()
  | _ => .error .notDirectory

/-- Asks for the figures of the file system below a path. -/
def statFileSystem (t : Tree) (path : String) : Except Fault Unit :=
  match t.find path with
  | .ok _ => .ok ()
  | .error .nulInPath => .error .invalidArgument
  | .error fault => .error fault

def writeFile (t : Tree) (path content : String) : Tree :=
  match t.vacant path .alreadyExists with
  | .ok place => t.put place (.file (some content) false)
  | .error _ => t

/-- Writes a key into a new file of a directory, which is made if need be. -/
def stageKey (t : Tree) (directory key fileStart : String) : Except Fault String × Tree :=
  match t.makeDirectories directory with
  | (.error fault, t) => (.error fault, t)
  | (.ok (), t) =>
    let path := Path.join directory (fileStart ++ toString t.keyFiles)
    match t.vacant path .alreadyExists with
    | .error fault => (.error fault, t)
    | .ok place =>
      (.ok path, { t.put place (.file (some key) false) with keyFiles := t.keyFiles + 1 })

def dropFile (t : Tree) (path : String) : Tree :=
  match t.removeFile path with
  | .ok t => t
  | .error _ => t

/-- What an onlooker sees at a path. -/
def kind (t : Tree) (path : String) : String :=
  match t.find path with
  | .ok (_, .directory) => "dir"
  | .ok (_, .socket) => "socket"
  | .ok (_, .file _ _) => "file"
  | .error _ => "absent"

end Tree

end FuseVolumes.Host
