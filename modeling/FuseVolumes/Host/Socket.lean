import FuseVolumes.Host.Kernel

/-! Unix sockets that a program listens on, named by endpoints. -/

namespace FuseVolumes.Host

/-- The scheme that an endpoint may carry. -/
def unixScheme : String := "unix://"

/-- The path of an endpoint. -/
def socketPath (endpoint : String) : String :=
  match Text.stripStart? unixScheme.toList endpoint.toList with
  | some path => .ofList path
  | none => endpoint

/-- Why nobody can listen on an endpoint. -/
inductive ListenError
  | stale (path : String) (fault : Fault)
  | directory (path : String) (fault : Fault)
  | bind (path : String) (fault : Fault)
  deriving DecidableEq, Repr

def ListenError.message : ListenError → String
  | .stale path fault => s!"Error removing stale socket {path}: {fault.message}"
  | .directory path fault => s!"Failed to create {path}: {fault.message}"
  | .bind path fault => s!"Failed to bind socket {path}: {fault.message}"

/-- The bytes of a socket's path must be fewer than these. -/
def socketPathLimit : Nat := 108

/-- Makes a socket and listens on it. Without a path the socket has no place. -/
def Tree.listen (t : Tree) (path : String) : Except Fault Tree :=
  if path.isEmpty then .ok t
  else if path.toList.contains '\x00' then .error .nulInSocketPath
  else if socketPathLimit ≤ Text.byteLength path.toList then .error .socketPathTooLong
  else do
    let place ← t.vacant path .addressInUse
    if Path.endsInSlash path then .error .notFound
    else .ok { t.put place .socket with listening := place :: t.listening }

/-- Whether someone listens where the endpoint leads. -/
def Tree.answers (t : Tree) (endpoint : String) : Bool :=
  match t.find (socketPath endpoint) with
  | .ok (place, .socket) => t.listening.contains place
  | _ => false

namespace Scene

/-- Removes what an earlier run left at the path. -/
def clear (s : Scene) (path : String) : Except ListenError Scene :=
  match s.tree.removeFile path with
  | .ok tree => .ok ({ s with tree }.log (.info .transport s!"Removed stale socket {path}"))
  | .error fault => if fault = .notFound then .ok s else .error (.stale path fault)

/-- Makes the directory a path is in. -/
def makeParent (s : Scene) (path : String) : Except ListenError Unit × Scene :=
  match Path.parent? path with
  | none | some "" => (.ok (), s)
  | some parent =>
    match s.tree.makeDirectories parent with
    | (.ok (), tree) => (.ok (), { s with tree })
    | (.error fault, tree) => (.error (.directory parent fault), { s with tree })

/-- A socket without a place cannot be opened to other users. -/
def share (s : Scene) (path : String) : Scene :=
  if path.isEmpty then
    s.log (.error .transport ("Failed to change permissions for socket: Os \x7b code: 2, "
      ++ "kind: NotFound, message: \"No such file or directory\" \x7d"))
  else s

/-- Listens on an endpoint in place of an earlier run. -/
def listen (s : Scene) (endpoint : String) : Except ListenError Unit × Scene :=
  let path := socketPath endpoint
  match s.clear path with
  | .error e => (.error e, s)
  | .ok s =>
    match s.makeParent path with
    | (.error e, s) => (.error e, s)
    | (.ok (), s) =>
      match s.tree.listen path with
      | .error fault => (.error (.bind path fault), s)
      | .ok tree => (.ok (), { s with tree }.share path)

end Scene

end FuseVolumes.Host
