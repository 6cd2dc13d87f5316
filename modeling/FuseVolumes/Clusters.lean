import FuseVolumes.Fault
import FuseVolumes.Json
import FuseVolumes.Text.Blank

/-! The storage clusters volumes may live on, each with the URL below which its client
configuration files are served. -/

namespace FuseVolumes

/-- Known clusters by id, without repetition. -/
structure Clusters where
  urls : List (String × String)
  deriving DecidableEq, Repr

namespace Clusters

def poolFile : String := "/fastcfs/auth/client.conf"
def fuseFile : String := "/fastcfs/fcfs/fuse.conf"

/-- Where the list of clusters is kept unless a command line says otherwise. -/
def defaultFile : String := "/etc/fcfs-csi-config/config.json"

inductive Error
  | read (path : String) (fault : Fault)
  | parse
  | duplicateCluster (id : String)
  | unknownCluster (id : String)
  deriving DecidableEq, Repr

/-- The words of the JSON reader stand as `<json error>`. -/
def Error.message : Error → String
  | .read path fault => s!"Failed to read cluster config {path}: {fault.message}"
  | .parse => "Failed to parse cluster config: <json error>"
  | .duplicateCluster id => s!"Cluster '{id}' is defined more than once"
  | .unknownCluster id => s!"Cluster '{id}' is not configured"

def empty : Clusters := ⟨[]⟩

/-- A URL without the slashes at its end. -/
def trimUrl (url : String) : String := .ofList (Text.trimEnd (· == '/') url.toList)

/-- Adds one cluster to those before it. -/
def add (c : Clusters) (id url : String) : Except Error Clusters :=
  match c.urls.lookup id with
  | some _ => .error (.duplicateCluster id)
  | none => .ok ⟨c.urls ++ [(id, trimUrl url)]⟩

def addAll : Clusters → List (String × String) → Except Error Clusters
  | c, [] => .ok c
  | c, (id, url) :: rest =>
    match c.add id url with
    | .error e => .error e
    | .ok c => c.addAll rest

def ofEntries (entries : List (String × String)) : Except Error Clusters :=
  empty.addAll entries

def url (c : Clusters) (id : String) : Except Error String :=
  match c.urls.lookup id with
  | some url => .ok url
  | none => .error (.unknownCluster id)

def size (c : Clusters) : Nat := c.urls.length

def isEmpty (c : Clusters) : Bool := c.urls.isEmpty

/-! ## The configuration file -/

/-- The two known members seen so far. -/
structure Members where
  id : Option String
  url : Option String

/-- Takes one member: known ones once and as text, others whatever they are. -/
def Members.add (m : Members) : Option String × Json → Option Members
  | (none, _) => none
  | (some "clusterID", value) =>
    match m.id, value with
    | none, .string (some text) => some { m with id := some text }
    | _, _ => none
  | (some "configURL", value) =>
    match m.url, value with
    | none, .string (some text) => some { m with url := some text }
    | _, _ => none
  | (some _, _) => some m

/-- An entry is an object with both members, or the two texts in order. -/
def entry? : Json → Option (String × String)
  | .object members =>
    match members.foldlM Members.add ⟨none, none⟩ with
    | some ⟨some id, some url⟩ => some (id, url)
    | _ => none
  | .array [.string (some id), .string (some url)] => some (id, url)
  | _ => none

def entries? : Json → Option (List (String × String))
  | .array items => items.mapM entry?
  | _ => none

/-- Reads the text of a configuration file. -/
def ofJson (text : String) : Except Error Clusters :=
  match (Json.parse? text).bind entries? with
  | some entries => ofEntries entries
  | none => .error .parse

end Clusters

end FuseVolumes
